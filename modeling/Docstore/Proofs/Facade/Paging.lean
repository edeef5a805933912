import Docstore.Proofs.Facade.Effects
import Docstore.Proofs.Store.Pages
import Docstore.Store.Scripted

/-!
# Where the pages of an answer end

How the answer to a query is cut into pages makes no difference to a call: it sees the documents one
after the other, all of them or the first.  The only trace of the pages is how many of them were
handed out.

* `Run.Alike` — two runs that differ in the pages that they were handed, and in nothing else.
* `Facade.perform_alike` — stores with the same documents are alike to a call.
* `Facade.perform_opens` — a call reads the answer to its query before it does anything else.
* `Facade.pages_make_no_difference` — what a call makes of the pages and of a page that does not
  come.
-/

namespace Docstore

variable {α β : Type}

/-! ## Runs that differ in their pages -/

/-- The same event, up to how many pages a query was handed and whether its stream was closed. -/
inductive Event.Alike : Event → Event → Prop
  | same (e : Event) : Alike e e
  | pages (store statement : String) (parameters : List Value) (maxItems : Value)
      (pulled pulled' : Nat) (closed closed' : Bool) :
      Alike (.request store (.query statement parameters maxItems pulled closed))
        (.request store (.query statement parameters maxItems pulled' closed'))

/-- Two runs with the same outcome, whose events are the same up to the pages of queries. -/
structure Run.Alike (x y : Run α) : Prop where
  outcome : x.outcome = y.outcome
  events : List.Forall₂ Event.Alike x.events y.events

namespace Run.Alike

variable {x y : Run α} {g k : α → Run β}

theorem refl (x : Run α) : x.Alike x :=
  ⟨rfl, List.forall₂_same.mpr fun e _ => .same e⟩

/-- Runs stay alike if what follows them is alike. -/
theorem bind (h : x.Alike y) (hnext : ∀ a, x.outcome = .ok a → (g a).Alike (k a)) :
    (x >>= g).Alike (y >>= k) := by
  obtain ⟨outcome, events⟩ := x
  obtain ⟨outcome', events'⟩ := y
  obtain rfl : outcome = outcome' := h.outcome
  cases outcome with
  | error e => exact ⟨rfl, h.events⟩
  | ok a => exact ⟨(hnext a rfl).outcome, List.rel_append h.events (hnext a rfl).events⟩

/-- A step that is the same on both sides. -/
theorem step (x : Run α) (hnext : ∀ a, x.outcome = .ok a → (g a).Alike (k a)) :
    (x >>= g).Alike (x >>= k) :=
  (refl x).bind hnext

theorem guarded (action : Action) (h : x.Alike y) : (x.guarded action).Alike (y.guarded action) :=
  ⟨congrArg (Except.mapError fun e : Failure => e.recast action) h.outcome, h.events⟩

end Run.Alike

/-! ## Reading an answer -/

namespace Extent

/-- A stream read as far as is wanted. -/
def read : Extent → PageStream → Drain (List Value)
  | all, s => s.all
  | first, s => (s.first.map Option.toList).closing

/-- The documents that a call is given, of those that answer its query.  Nothing in the place of the
first document means that there is none. -/
def part : Extent → List Value → List Value
  | all, documents => documents
  | first, [] | first, .null :: _ => []
  | first, item :: _ => [item]

variable {extent : Extent} {pages : List (List Value)} {s : PageStream}

/-- Every reading leaves its stream closed, whether the stream ended, broke or was left. -/
theorem read_closed (extent : Extent) (s : PageStream) : (extent.read s).closed = true := by
  cases extent with
  | first => rfl
  | all =>
    change s.pages.closed = true
    induction s with
    | done | broken => rfl
    | page items rest ih => exact ih

theorem read_ofPages_all (pages : List (List Value)) :
    (all.read (.ofPages pages)).result = .ok pages.flatten := by
  rw [read, PageStream.all_ofPages]

theorem read_ofPages_first (pages : List (List Value)) :
    (first.read (.ofPages pages)).result = .ok pages.flatten.head?.toList :=
  congrArg (Except.map Option.toList) (PageStream.first_ofPages pages)

/-- Only the documents count, not how they are cut into pages. -/
theorem read_eq_of_flatten {pages' : List (List Value)} (h : pages.flatten = pages'.flatten) :
    (extent.read (.ofPages pages)).result = (extent.read (.ofPages pages')).result := by
  cases extent with
  | all => rw [read_ofPages_all, read_ofPages_all, h]
  | first => rw [read_ofPages_first, read_ofPages_first, h]

/-- A page that does not come is seen where everything is read, and where no document comes before
it. -/
theorem read_broken (h : extent = .all ∨ pages.flatten = []) (begun : Bool) (e : Failure) :
    (extent.read (.before pages (.broken begun e))).result = .error e := by
  cases extent with
  | all => exact PageStream.all_broken pages begun e
  | first =>
    have hempty : pages.flatten = [] := h.resolve_left (by simp)
    exact congrArg (Except.map Option.toList) (PageStream.first_broken hempty begun e)

/-- Where the first document is looked for, what comes after it is not seen. -/
theorem read_first_before (h : pages.flatten ≠ []) (s : PageStream) :
    (first.read (.before pages s)).result = (first.read (.ofPages pages)).result := by
  rw [read_ofPages_first]
  exact congrArg (Except.map Option.toList) (PageStream.first_result h s)

end Extent

/-- Reads the answer to a query as far as is wanted. -/
def Container.fetch (c : Container) (extent : Extent) (q : Query) (maxItems : Option Int) :
    Run (List Value) :=
  c.reading q maxItems extent.read

namespace Facade

variable {f : Facade} {c : Container} {call : Call} {q : Query} {extent : Extent}
  {answers : Query → Option Int → PageStream} {registry : Registry} {maxItems : Option Int}

/-- The log record of a query and its reading, at the boundary of the store. -/
def opening (c : Container) (extent : Extent) (q : Query) (maxItems : Option Int) :
    Run (List Value) := do
  logQuery q
  (c.fetch extent q maxItems).guarded .query

theorem fetchFirst_eq (c : Container) (q : Query) :
    fetchFirst c q = opening c .first q (some 1) >>= fun found => pure (found.headD .null) := by
  have hread : ((c.queryFirst q (some 1)).guarded .query >>= fun found =>
      pure (found.getD .null)) =
      (c.fetch .first q (some 1)).guarded .query >>= fun found => pure (found.headD .null) := by
    rw [Run.bind_pure, Run.bind_pure]
    refine congrArg₂ Run.mk ?_ rfl
    simp only [Run.guarded, Container.queryFirst, Container.fetch, Container.reading, Extent.read,
      Drain.closing, Drain.map]
    cases (c.query q (some 1)).first.result with
    | error e => rfl
    | ok found => cases found <;> rfl
  unfold fetchFirst opening
  rw [Run.andThen_assoc, hread]

/-- A run begins with the reading of an answer. -/
def Opens (c : Container) (extent : Extent) (q : Query) (maxItems : Option Int) (x : Run α) : Prop :=
  ∃ g, x = opening c extent q maxItems >>= g

namespace Opens

variable {x : Run α} {g : α → Run β}

theorem bind (h : Opens c extent q maxItems x) (g : α → Run β) :
    Opens c extent q maxItems (x >>= g) := by
  obtain ⟨k, rfl⟩ := h
  exact ⟨fun documents => k documents >>= g, Run.andThen_assoc ..⟩

theorem found {model : Value} (hc : f.registry.resolve model = .ok c) {g : Container → Run β}
    (h : Opens c extent q maxItems (g c)) :
    Opens c extent q maxItems (f.container model >>= g) := by
  unfold container
  rw [hc]
  exact h

theorem select {x : Run Query} (hx : x = ⟨.ok q, []⟩) {g : Query → Run β}
    (h : Opens c extent q maxItems (g q)) : Opens c extent q maxItems (x >>= g) := by
  subst hx
  exact h

theorem fetchAll (c : Container) (q : Query) (maxItems : Option Int) :
    Opens c .all q maxItems (fetchAll c q maxItems) :=
  ⟨pure, (bind_pure _).symm⟩

theorem fetchFirst (c : Container) (q : Query) : Opens c .first q (some 1) (fetchFirst c q) :=
  ⟨_, fetchFirst_eq c q⟩

end Opens

/-- **A call reads the answer to its query before it does anything else.** -/
theorem perform_opens (hc : f.registry.resolve call.model = .ok c)
    (hextent : call.extent? = some extent) (hq : f.queryOf call = .ok q) :
    Opens c extent q (f.pageSize call) (f.perform call) := by
  have hselect : (⟨f.queryOf call, []⟩ : Run Query) = ⟨.ok q, []⟩ := by rw [hq]
  cases call with
  | create => cases hextent
  | findOne =>
    cases hextent
    exact .found hc (.select hselect (.fetchFirst c q))
  | update =>
    cases hextent
    exact .found hc (.select hselect ((Opens.fetchFirst c q).bind _))
  | delete model conditions =>
    cases hextent
    have hrun : Opens c .first q (some 1) (f.delete model conditions) :=
      .found hc (.select hselect ((Opens.fetchFirst c q).bind _))
    exact hrun.bind _
  | count model conditions =>
    cases hextent
    have hrun : Opens c .all q none (f.count model conditions) :=
      .found hc (.select hselect ((Opens.fetchAll c q none).bind _))
    exact hrun.bind _
  | updateMany model conditions changes =>
    cases hextent
    have hrun : Opens c .all q none (f.updateMany model conditions changes) :=
      .found hc (.select hselect ((Opens.fetchAll c q none).bind _))
    exact hrun.bind _
  | deleteMany model conditions =>
    cases hextent
    have hrun : Opens c .all q none (f.deleteMany model conditions) :=
      .found hc (.select hselect ((Opens.fetchAll c q none).bind _))
    exact hrun.bind _
  | findMany model conditions sortBy limit offset =>
    cases hextent
    cases hw : f.window limit offset with
    | error e =>
      cases hq.symm.trans (queryOf_findMany_error hw)
    | ok w =>
      have hrun : Opens c .all q (some w.limit) (f.findMany model conditions sortBy limit offset) := by
        refine .found hc ?_
        rw [hw]
        exact .select ((queryOf_findMany hw).symm.trans hselect) (.fetchAll c q (some w.limit))
      rw [pageSize_findMany hw]
      exact hrun.bind _

/-! ## Two stores -/

section Alike

theorem opening_alike (hsame : (extent.read (c.query q maxItems)).result =
      (extent.read (answers q maxItems)).result) :
    (opening c extent q maxItems).Alike
      (opening { c with query := answers } extent q maxItems) := by
  refine Run.Alike.step _ fun _ _ => Run.Alike.guarded .query ?_
  exact ⟨hsame, .cons (.pages ..) .nil⟩

theorem fetchFirst_alike (hsame : (Extent.first.read (c.query q (some 1))).result =
      (Extent.first.read (answers q (some 1))).result) :
    (fetchFirst c q).Alike (fetchFirst { c with query := answers } q) := by
  rw [fetchFirst_eq, fetchFirst_eq]
  exact (opening_alike hsame).bind fun _ _ => .refl _

theorem resolveEntries_registry (registry : Registry) (model : Value)
    (resolved entries : List (Value × Value)) :
    ({ f with registry := registry } : Facade).resolveEntries model resolved entries =
      f.resolveEntries model resolved entries := by
  induction entries generalizing resolved with
  | nil => rfl
  | cons entry rest ih =>
    unfold resolveEntries
    simp only [ih]
    rfl

/-- Field names do not depend on the containers. -/
theorem resolveData_registry (registry : Registry) (model data : Value) :
    ({ f with registry := registry } : Facade).resolveData model data = f.resolveData model data := by
  simp only [resolveData, resolveEntries_registry]

theorem found_alike {model : Value} (hc : f.registry.resolve model = .ok c)
    (hc' : registry.resolve model = .ok { c with query := answers }) {g k : Container → Run α}
    (h : (g c).Alike (k { c with query := answers })) :
    (f.container model >>= g).Alike
      (({ f with registry := registry } : Facade).container model >>= k) := by
  unfold container
  rw [hc, hc']
  exact h

/-- **Stores with the same documents are alike to a call**, whatever pages they come in. -/
theorem perform_alike (hc : f.registry.resolve call.model = .ok c)
    (hc' : registry.resolve call.model = .ok { c with query := answers })
    (hsame : ∀ extent q, call.extent? = some extent → f.queryOf call = .ok q →
      (extent.read (c.query q (f.pageSize call))).result =
        (extent.read (answers q (f.pageSize call))).result) :
    (f.perform call).Alike (({ f with registry := registry } : Facade).perform call) := by
  cases call with
  | create =>
    refine found_alike hc hc' ?_
    rw [resolveData_registry registry]
    exact .refl _
  | findOne =>
    refine found_alike hc hc' (Run.Alike.step _ fun q hq => ?_)
    exact fetchFirst_alike (hsame _ q rfl hq)
  | update =>
    refine found_alike hc hc' (Run.Alike.step _ fun q hq => ?_)
    refine (fetchFirst_alike (hsame _ q rfl hq)).bind fun found _ => ?_
    simp only [resolveData_registry registry]
    exact .refl _
  | delete =>
    refine Run.Alike.bind (found_alike hc hc' (Run.Alike.step _ fun q hq => ?_)) fun _ _ => .refl _
    exact (fetchFirst_alike (hsame _ q rfl hq)).bind fun _ _ => .refl _
  | updateMany =>
    refine Run.Alike.bind (found_alike hc hc' (Run.Alike.step _ fun q hq => ?_)) fun _ _ => .refl _
    refine (opening_alike (hsame _ q rfl hq)).bind fun documents _ => ?_
    simp only [resolveData_registry registry]
    exact .refl _
  | count | deleteMany =>
    refine Run.Alike.bind (found_alike hc hc' (Run.Alike.step _ fun q hq => ?_)) fun _ _ => .refl _
    exact (opening_alike (hsame _ q rfl hq)).bind fun _ _ => .refl _
  | findMany model conditions sortBy limit offset =>
    refine Run.Alike.bind (found_alike hc hc' (Run.Alike.step _ fun w hw => ?_)) fun _ _ => .refl _
    have hwindow : f.window limit offset = .ok w := hw
    refine Run.Alike.step _ fun q hq => ?_
    have hquery : f.queryOf (.findMany model conditions sortBy limit offset) = .ok q :=
      (congrArg Run.outcome (queryOf_findMany hwindow)).trans hq
    have hread := hsame _ q rfl hquery
    rw [pageSize_findMany hwindow] at hread
    exact opening_alike hread

end Alike

/-! ## Pages -/

/-- The trace of a query: the log record, then the request with its count of pages, whose stream is
closed. -/
def readingOf (c : Container) (q : Query) (maxItems : Option Int) (pulled : Nat) : List Event :=
  [.log ⟨.debug, logger, "Executing query: " ++ q.statement ++ " (" ++
      Text.ofNat q.parameters.length ++ " parameters)"⟩,
    .request c.name (.query q.statement (q.parameters.map Parameter.report)
      (match maxItems with
        | some n => .int n
        | none => .null) pulled true)]

theorem opening_events (c : Container) (extent : Extent) (q : Query) (maxItems : Option Int) :
    (opening c extent q maxItems).events =
      readingOf c q maxItems (extent.read (c.query q maxItems)).pulled := by
  unfold readingOf
  rw [← extent.read_closed (c.query q maxItems)]
  rfl

theorem opening_outcome {documents : List Value}
    (h : (extent.read (c.query q maxItems)).result = .ok documents) :
    (opening c extent q maxItems).outcome = .ok documents :=
  congrArg (Except.mapError fun e : Failure => e.recast .query) h

/-- A call whose reading fails ends with it. -/
theorem perform_of_read_error (hc : f.registry.resolve call.model = .ok c)
    (hextent : call.extent? = some extent) (hq : f.queryOf call = .ok q) {e : Failure}
    (h : (extent.read (c.query q (f.pageSize call))).result = .error e) :
    f.perform call = ⟨.error (e.recast .query), readingOf c q (f.pageSize call)
      (extent.read (c.query q (f.pageSize call))).pulled⟩ := by
  obtain ⟨g, hg⟩ := perform_opens hc hextent hq
  have hopening : opening c extent q (f.pageSize call) = ⟨.error (e.recast .query),
      readingOf c q (f.pageSize call) (extent.read (c.query q (f.pageSize call))).pulled⟩ := by
    rw [← opening_events]
    refine congrArg₂ Run.mk ?_ rfl
    exact congrArg (Except.mapError fun e : Failure => e.recast .query) h
  rw [hg, hopening, Run.bind_error]

theorem perform_events (hc : f.registry.resolve call.model = .ok c)
    (hextent : call.extent? = some extent) (hq : f.queryOf call = .ok q) :
    readingOf c q (f.pageSize call) (extent.read (c.query q (f.pageSize call))).pulled <+:
      (f.perform call).events := by
  obtain ⟨g, hg⟩ := perform_opens hc hextent hq
  rw [hg, ← opening_events]
  obtain ⟨outcome, events⟩ := opening c extent q (f.pageSize call)
  cases outcome with
  | error e => exact List.prefix_refl _
  | ok documents => exact List.prefix_append _ _

theorem delivered_of_pages (hextent : call.extent? = some extent) (hq : f.queryOf call = .ok q)
    {pages : List (List Value)} (h : c.query q (f.pageSize call) = .ofPages pages) :
    f.delivered c call = .ok (extent.part pages.flatten) := by
  cases extent with
  | all => rw [delivered_all hextent hq, h, PageStream.all_ofPages, Extent.part]
  | first =>
    rw [delivered_first hextent hq, h, PageStream.first_ofPages]
    rcases pages.flatten with _ | ⟨item, rest⟩
    · rfl
    · cases item <;> rfl

section Find

variable {model conditions sortBy limit offset : Value} {pages : List (List Value)}

theorem container_outcome (hc : f.registry.resolve model = .ok c) :
    (f.container model).outcome = .ok c := by
  unfold container
  rw [hc]
  rfl

/-- Finding the first document gives the first of the pages, or nothing. -/
theorem findOne_outcome (hc : f.registry.resolve model = .ok c)
    (hq : f.queryOf (.findOne model conditions) = .ok q)
    (h : c.query q (some 1) = .ofPages pages) :
    (f.findOne model conditions).outcome = .ok (pages.flatten.headD .null) := by
  have hcontainer : (f.container model).outcome = .ok c := container_outcome hc
  have hselect : (Run.of (f.statement model f.selectAll conditions)).outcome = .ok q := hq
  have hread : (Extent.first.read (c.query q (some 1))).result = .ok pages.flatten.head?.toList := by
    rw [h]
    exact Extent.read_ofPages_first pages
  unfold findOne
  rw [Run.outcome_bind _ hcontainer, Run.outcome_bind _ hselect, fetchFirst_eq,
    Run.outcome_bind _ (opening_outcome hread)]
  cases pages.flatten <;> rfl

/-- Finding documents gives the pages one after the other. -/
theorem findMany_outcome (hc : f.registry.resolve model = .ok c)
    (hq : f.queryOf (.findMany model conditions sortBy limit offset) = .ok q)
    (h : c.query q (f.pageSize (.findMany model conditions sortBy limit offset)) = .ofPages pages) :
    (f.findMany model conditions sortBy limit offset).outcome = .ok pages.flatten := by
  have hcontainer : (f.container model).outcome = .ok c := container_outcome hc
  cases hw : f.window limit offset with
  | error e => cases hq.symm.trans (queryOf_findMany_error hw)
  | ok w =>
    have hbuild : (Run.of (f.statement model f.selectAll conditions sortBy (some w))).outcome =
        .ok q := by
      rw [← queryOf_findMany hw, hq]
    have hread : (Extent.all.read (c.query q (some w.limit))).result = .ok pages.flatten := by
      rw [← pageSize_findMany hw, h]
      exact Extent.read_ofPages_all pages
    have hwindow : (⟨f.window limit offset, []⟩ : Run Window).outcome = .ok w := hw
    unfold findMany
    rw [Run.outcome_bind _ hcontainer, Run.outcome_bind _ hwindow, Run.outcome_bind _ hbuild]
    exact opening_outcome hread

end Find

/-- **Where the pages end makes no difference to a call.**

Suppose that the model of a call has a container, and that the statement of the call can be built.

The call sees the documents of the pages one after the other, all of them or the first, and it writes
exactly what it prepares from those.  Its trace begins with the reading, whose stream is closed
however it went; if only the first document is wanted, no page after the first that is not empty is
handed out.  A page that does not come ends the call with the failure, recast, before it has written
anything, if everything is read or no document came before; otherwise it is not noticed.  A store
whose pages hold the same documents is alike to the call. -/
theorem pages_make_no_difference (f : Facade) (call : Call)
    (hc : f.registry.resolve call.model = .ok c) (hextent : call.extent? = some extent)
    (hq : f.queryOf call = .ok q) :
    (∀ pages, c.query q (f.pageSize call) = .ofPages pages →
      f.delivered c call = .ok (extent.part pages.flatten) ∧
      (∀ model conditions, call = .findOne model conditions →
        (f.findOne model conditions).outcome = .ok (pages.flatten.headD .null)) ∧
      ∀ model conditions sortBy limit offset,
        call = .findMany model conditions sortBy limit offset →
        (f.findMany model conditions sortBy limit offset).outcome = .ok pages.flatten) ∧
    (∃ calls, Conduct f.IsOwn c calls (f.perform call) ∧
      ∀ w, w.isWrite = true → (w ∈ calls ↔ Prepares f c call w)) ∧
    readingOf c q (f.pageSize call) (extent.read (c.query q (f.pageSize call))).pulled <+:
      (f.perform call).events ∧
    (extent = .first → ∀ lead v others rest, (∀ items ∈ lead, items = []) →
      c.query q (f.pageSize call) = .before lead (.page (v :: others) rest) →
      readingOf c q (f.pageSize call) (lead.length + 1) <+: (f.perform call).events) ∧
    (∀ pages begun e, c.query q (f.pageSize call) = .before pages (.broken begun e) →
      extent = .all ∨ pages.flatten = [] → ∃ pulled, f.perform call =
        ⟨.error (e.recast .query), readingOf c q (f.pageSize call) pulled⟩) ∧
    ∀ registry answers, registry.resolve call.model = .ok { c with query := answers } →
      (∀ pages pages', c.query q (f.pageSize call) = .ofPages pages →
        answers q (f.pageSize call) = .ofPages pages' → pages.flatten = pages'.flatten →
        (f.perform call).Alike (({ f with registry := registry } : Facade).perform call)) ∧
      ∀ pages s, c.query q (f.pageSize call) = .before pages s → extent = .first →
        pages.flatten ≠ [] → answers q (f.pageSize call) = .ofPages pages →
        (f.perform call).Alike (({ f with registry := registry } : Facade).perform call) := by
  have hevents := perform_events hc hextent hq
  refine ⟨fun pages hpages => ⟨delivered_of_pages hextent hq hpages, ?_, ?_⟩, ?_, hevents, ?_, ?_, ?_⟩
  · rintro model conditions rfl
    exact findOne_outcome hc hq hpages
  · rintro model conditions sortBy limit offset rfl
    exact findMany_outcome hc hq hpages
  · obtain ⟨calls, hconduct, heffects⟩ := perform_meets call hc
    exact ⟨calls, hconduct, heffects.writes⟩
  · rintro rfl lead v others rest hlead hanswer
    have hpulled : (Extent.first.read (c.query q (f.pageSize call))).pulled = lead.length + 1 := by
      rw [hanswer]
      exact congrArg Drain.pulled (PageStream.first_of_item hlead v others rest)
    rwa [hpulled] at hevents
  · intro pages begun e hanswer hseen
    have hread := Extent.read_broken hseen begun e
    rw [← hanswer] at hread
    exact ⟨_, perform_of_read_error hc hextent hq hread⟩
  · intro registry answers hc'
    have halike : (extent.read (c.query q (f.pageSize call))).result =
          (extent.read (answers q (f.pageSize call))).result →
        (f.perform call).Alike (({ f with registry := registry } : Facade).perform call) := by
      intro hread
      refine perform_alike hc hc' fun extent' q' hextent' hq' => ?_
      cases hextent.symm.trans hextent'
      cases hq.symm.trans hq'
      exact hread
    refine ⟨fun pages pages' hpages hpages' hsame => halike ?_,
      fun pages s hpages hfirst hsome hpages' => halike ?_⟩
    · rw [hpages, hpages']
      exact Extent.read_eq_of_flatten hsame
    · subst hfirst
      rw [hpages, hpages']
      exact Extent.read_first_before hsome s

/-- The deletion of the first document passes over an empty page, takes the document from the
second and never learns that the third does not come. -/
theorem deletion_stops_at_second_page :
    let document (id : String) : Value := .dict [(.str "id", .str id)]
    let s : Script := { pages := [.items [], .items [document "a", document "b"],
      .failure ⟨.timeout none, none⟩] }
    let f : Facade := ⟨⟨[("user", .container (s.toContainer "users"))], false⟩, .identity, .standard⟩
    let call : Call := .delete (.str "user") .null
    ∃ q, f.registry.resolve call.model = .ok (s.toContainer "users") ∧
      call.extent? = some .first ∧ f.queryOf call = .ok q ∧
      readingOf (s.toContainer "users") q (some 1) 2 <+: (f.perform call).events := by
  intro document s f call
  have hc : f.registry.resolve call.model = .ok (s.toContainer "users") := rfl
  obtain ⟨q, hq⟩ : ∃ q, f.queryOf call = .ok q := ⟨_, rfl⟩
  obtain ⟨-, -, -, hfirst, -⟩ := pages_make_no_difference f call hc rfl hq
  refine ⟨q, hc, rfl, hq, ?_⟩
  exact hfirst rfl [[]] (document "a") [document "b"] (.broken false ⟨.timeout none, none⟩)
    (by simp) rfl

end Facade

end Docstore
