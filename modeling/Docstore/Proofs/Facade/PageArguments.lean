import Docstore.Proofs.Facade.Pagination
import Docstore.Proofs.Query.WholeNumber

/-!
# Page arguments: honoured, refused or replaced

A limit and an offset are honoured if the call asks, once, for the window of the numbers that they
denote, or else refuses them and asks for nothing.  Only an argument that is not given is meant to be
left to its default.  But whatever counts as nothing is left to it: a limit of zero, in any format, an
empty text, an empty list.  None of those denotes a positive number, so to replace such a limit is
never to honour it; an offset of zero is the default, and to replace it makes no difference.

* `Facade.Honours` — the limit and the offset of a call are honoured.
* `Facade.findMany_cases` — a call refuses its window, asks for it, or has no words for its numbers.
* `Facade.Honours.isGiven`, `Facade.honours_of_isGiven` — arguments that are honoured are given ones.
* `Facade.honours_iff_isGiven` — of arguments that are not refused, exactly those are honoured that
  are given, or not given at all, and can be put into words.
-/

namespace Docstore

namespace Value

/-- What is meant by an argument: the default, if nothing is given. -/
def orDefault (v fallback : Value) : Value :=
  match v with
  | .null => fallback
  | v => v

variable {v fallback : Value}

theorem orDefault_of_ne_null (h : v ≠ .null) : v.orDefault fallback = v := by
  cases v with
  | null => exact absurd rfl h
  | _ => rfl

/-- Where nothing is given, or something that counts, what is meant is what is taken. -/
theorem orDefault_eq_taken (h : v = .null ∨ v.isTruthy = true) :
    v.orDefault fallback = if v.isTruthy then v else fallback := by
  rcases h with rfl | h
  · rfl
  · rw [if_pos h]
    refine orDefault_of_ne_null ?_
    rintro rfl
    cases h

theorem denotes_int (n : Int) : (Value.int n).Denotes n :=
  .inl rfl

/-- What denotes a number that can be written can be put into words. -/
theorem Denotes.isWritable {n : Int} (h : v.Denotes n) (hn : n.natAbs < 10 ^ Text.maxDigits) :
    v.isWritable = true := by
  rcases h with h | ⟨s, hs, -⟩
  · cases v with
    | int m =>
      have hsame : m = n := Exact.ofInt_inj.mp (Number.exact.inj (Option.some.inj h))
      rw [hsame]
      exact Json.isWritable_iff.mpr hn
    | bool | float | decimal => rfl
    | _ => cases h
  · cases v with
    | str | uuid | bytes | connector | direction | operator => rfl
    | _ => cases hs

end Value

/-! ## Windows -/

/-- A window is made of the numbers that its values denote, in their range. -/
theorem Window.ofValues_eq_ok {limit offset : Value} {w : Window}
    (h : Window.ofValues (some limit) (some offset) = .ok w) :
    0 < w.limit ∧ 0 ≤ w.offset ∧ limit.Denotes w.limit ∧ offset.Denotes w.offset := by
  have hchecked : ∀ {field rule holds v n}, Validation.integerWith field rule holds v = .ok n →
      holds n = true ∧ v.Denotes n := by
    intro field rule holds v n hcheck
    obtain ⟨m, hm, hholds⟩ := bind_eq_ok.mp hcheck
    split at hholds
    · rename_i htrue
      cases hholds
      exact ⟨htrue, Validation.denotes_of_integer hm⟩
    · cases hholds
  unfold Window.ofValues at h
  dsimp only at h
  split at h
  · rename_i l o hl ho
    cases h
    obtain ⟨hpositive, hlimit⟩ := hchecked hl
    obtain ⟨hnonnegative, hoffset⟩ := hchecked ho
    exact ⟨of_decide_eq_true hpositive, of_decide_eq_true hnonnegative, hlimit, hoffset⟩
  · cases h

namespace Facade

variable {α : Type} {f : Facade} {c : Container} {model conditions sortBy limit offset : Value}
  {whole : Query} {w : Window} {x : Run α}

/-! ## Honouring -/

/-- The requests among events, each with its store. -/
def requests (events : List Event) : List (String × Request) :=
  events.filterMap fun
    | .request store r => some (store, r)
    | _ => none

/-- A run refuses what is asked of it, and nothing has happened. -/
def IsRefused (x : Run α) : Prop :=
  x.events = [] ∧ ∃ e message reports,
    x.outcome = .error e ∧ e.fault = .refusal (.invalidQuery message reports)

/-- A run asks a store once, for a window of what a query asks for, with pages of its limit. -/
def AsksFor (c : Container) (whole : Query) (x : Run α) (w : Window) : Prop :=
  ∃ (q : Query) (pulled : Nat) (closed : Bool), q.IsWindowOf whole w ∧ requests x.events =
    [(c.name, .query q.statement (q.parameters.map Parameter.report) (.int w.limit) pulled closed)]

/-- The limit and the offset of a call are refused, or it asks for the window that they denote. -/
def Honours (f : Facade) (c : Container) (whole : Query)
    (model conditions sortBy limit offset : Value) : Prop :=
  let x := f.findMany model conditions sortBy limit offset
  IsRefused x ∨ ∃ w : Window, 0 < w.limit ∧ 0 ≤ w.offset ∧ AsksFor c whole x w ∧
    (limit.orDefault f.config.defaultLimit).Denotes w.limit ∧
    (offset.orDefault (.int 0)).Denotes w.offset

/-- A limit and an offset can be put into words. -/
def HasWords (limit offset : Value) : Prop :=
  limit.isWritable = true ∧ offset.isWritable = true

/-- A limit and an offset that are not given, or are given and not replaced by something else, that
can be put into words, and whose numbers have no more digits than are ever written. -/
structure IsGiven (f : Facade) (limit offset : Value) : Prop where
  limit_kept : limit = .null ∨ limit.isTruthy = true
  offset_kept : offset = .null ∨ offset.isTruthy = true ∨ offset.Denotes 0
  hasWords : HasWords limit offset
  written : ∀ n : Int, (limit.orDefault f.config.defaultLimit).Denotes n ∨
    (offset.orDefault (.int 0)).Denotes n → n.natAbs < 10 ^ Text.maxDigits

theorem AsksFor.ne_nil (h : AsksFor c whole x w) : x.events ≠ [] := by
  obtain ⟨q, pulled, closed, -, hrequests⟩ := h
  intro hnil
  rw [hnil] at hrequests
  cases hrequests

/-! ## What a call does with its window -/

/-- A call whose window is made asks for it. -/
theorem findMany_asksFor (hc : f.registry.resolve model = .ok c)
    (hwhole : f.statement model f.selectAll conditions sortBy none = .ok whole)
    (hw : f.window limit offset = .ok w)
    (hlimit : w.limit.natAbs < 10 ^ Text.maxDigits)
    (hoffset : w.offset.natAbs < 10 ^ Text.maxDigits) :
    AsksFor c whole (f.findMany model conditions sortBy limit offset) w := by
  obtain ⟨q, hbuild, hwindow⟩ := statement_isWindowOf hwhole hlimit hoffset
  refine ⟨q, (Extent.all.read (c.query q (some w.limit))).pulled, true, hwindow, ?_⟩
  rw [findMany_eq_fetchAll hc hw hbuild]
  exact congrArg requests (opening_events c .all q (some w.limit))

/-- A call that cannot put its numbers into words fails, and nothing has happened. -/
def IsWordless (x : Run α) : Prop :=
  x = ⟨.error ⟨.flawed .tooLongToWrite, none⟩, []⟩

theorem IsWordless.not_isRefused (h : IsWordless x) : ¬IsRefused x := by
  rintro ⟨-, e, message, reports, he, hrefused⟩
  rw [h] at he
  cases he
  cases hrefused

/-- **A call refuses its window, asks for it, or has no words for its numbers.**  The window is that
of what is taken for the limit and the offset, where what counts as nothing is left to the defaults.
To refuse it takes words for the limit and the offset. -/
theorem findMany_cases (hc : f.registry.resolve model = .ok c)
    (hwhole : f.statement model f.selectAll conditions sortBy none = .ok whole) :
    IsRefused (f.findMany model conditions sortBy limit offset) ∧ HasWords limit offset ∨
    IsWordless (f.findMany model conditions sortBy limit offset) ∧ ¬HasWords limit offset ∨
    ∃ w : Window, 0 < w.limit ∧ 0 ≤ w.offset ∧
      (if limit.isTruthy then limit else f.config.defaultLimit).Denotes w.limit ∧
      (if offset.isTruthy then offset else .int 0).Denotes w.offset ∧
      (w.limit.natAbs < 10 ^ Text.maxDigits ∧ w.offset.natAbs < 10 ^ Text.maxDigits ∧
          AsksFor c whole (f.findMany model conditions sortBy limit offset) w ∨
        (10 ^ Text.maxDigits ≤ w.limit.natAbs ∨ 10 ^ Text.maxDigits ≤ w.offset.natAbs) ∧
          IsWordless (f.findMany model conditions sortBy limit offset)) := by
  cases hvalues : Window.ofValues (some (if limit.isTruthy then limit else f.config.defaultLimit))
      (some (if offset.isTruthy then offset else .int 0)) with
  | error vs =>
    have hrun : f.findMany model conditions sortBy limit offset =
        ⟨.error (windowFailure limit offset vs), []⟩ := by
      refine container_bind_of_failed hc ?_
      rw [window_of_malformed hvalues, Run.bind_error]
    rw [hrun]
    by_cases hwords : HasWords limit offset
    · obtain ⟨message, hmessage⟩ := windowFailure_of_isWritable vs hwords
      rw [hmessage]
      exact .inl ⟨⟨rfl, _, message, _, rfl, rfl⟩, hwords⟩
    · rw [windowFailure_of_not_isWritable vs hwords]
      exact .inr (.inl ⟨rfl, hwords⟩)
  | ok w =>
    obtain ⟨hpositive, hnonnegative, hlimit, hoffset⟩ := Window.ofValues_eq_ok hvalues
    have hw : f.window limit offset = .ok w := by
      unfold window
      dsimp only
      rw [hvalues]
      rfl
    refine .inr (.inr ⟨w, hpositive, hnonnegative, hlimit, hoffset, ?_⟩)
    by_cases hlong : 10 ^ Text.maxDigits ≤ w.limit.natAbs ∨ 10 ^ Text.maxDigits ≤ w.offset.natAbs
    · exact .inr ⟨hlong, findMany_of_unwritable hc hwhole hw hlong⟩
    · obtain ⟨hl, ho⟩ := not_or.mp hlong
      rw [Nat.not_le] at hl ho
      exact .inl ⟨hl, ho, findMany_asksFor hc hwhole hw hl ho⟩

/-! ## Which arguments are honoured -/

/-- Whatever counts as nothing, an offset that is left to the default and honoured so is zero. -/
theorem offset_denotes_taken (h : offset = .null ∨ offset.isTruthy = true ∨ offset.Denotes 0)
    {n : Int} (hn : (if offset.isTruthy then offset else .int 0).Denotes n) :
    (offset.orDefault (.int 0)).Denotes n := by
  by_cases hkept : offset = .null ∨ offset.isTruthy = true
  · rwa [Value.orDefault_eq_taken hkept]
  · obtain ⟨hnull, hfalsy⟩ := not_or.mp hkept
    have hzero : offset.Denotes 0 := (h.resolve_left hnull).resolve_left hfalsy
    rw [if_neg hfalsy] at hn
    rw [Value.orDefault_of_ne_null hnull, hn.unique (Value.denotes_int 0)]
    exact hzero

/-- **Arguments that are honoured and not refused are given ones.** -/
theorem Honours.isGiven (hc : f.registry.resolve model = .ok c)
    (hwhole : f.statement model f.selectAll conditions sortBy none = .ok whole)
    (h : f.Honours c whole model conditions sortBy limit offset)
    (hrefused : ¬IsRefused (f.findMany model conditions sortBy limit offset)) :
    f.IsGiven limit offset := by
  obtain ⟨w, hpositive, -, hasks, hlimit, hoffset⟩ := h.resolve_left hrefused
  have hlimit_kept : limit = .null ∨ limit.isTruthy = true := by
    refine Classical.byContradiction fun hlost => ?_
    obtain ⟨hnull, hfalsy⟩ := not_or.mp hlost
    rw [Value.orDefault_of_ne_null hnull] at hlimit
    have hzero := hlimit.eq_zero (Bool.eq_false_iff.mpr hfalsy)
    omega
  have hoffset_kept : offset = .null ∨ offset.isTruthy = true ∨ offset.Denotes 0 := by
    by_cases hkept : offset = .null ∨ offset.isTruthy = true
    · exact hkept.imp_right .inl
    · obtain ⟨hnull, hfalsy⟩ := not_or.mp hkept
      rw [Value.orDefault_of_ne_null hnull] at hoffset
      rw [hoffset.eq_zero (Bool.eq_false_iff.mpr hfalsy)] at hoffset
      exact .inr (.inr hoffset)
  have hwordy : ¬IsWordless (f.findMany model conditions sortBy limit offset) := fun hwordless =>
    hasks.ne_nil (congrArg Run.events hwordless)
  rcases findMany_cases hc hwhole with
    ⟨hrefuses, -⟩ | ⟨hwordless, -⟩ | ⟨taken, -, -, htaken, htaken', hcases⟩
  · exact absurd hrefuses hrefused
  · exact absurd hwordless hwordy
  · obtain ⟨hl, ho, -⟩ := hcases.resolve_right fun h => hwordy h.2
    rw [← Value.orDefault_eq_taken hlimit_kept] at htaken
    have htaken' := offset_denotes_taken hoffset_kept htaken'
    have hwords : HasWords limit offset := by
      refine ⟨?_, ?_⟩
      · by_cases hnull : limit = .null
        · rw [hnull]
          rfl
        · rw [Value.orDefault_of_ne_null hnull] at htaken
          exact htaken.isWritable hl
      · by_cases hnull : offset = .null
        · rw [hnull]
          rfl
        · rw [Value.orDefault_of_ne_null hnull] at htaken'
          exact htaken'.isWritable ho
    refine ⟨hlimit_kept, hoffset_kept, hwords, ?_⟩
    rintro n (hn | hn)
    · rwa [hn.unique htaken]
    · rwa [hn.unique htaken']

/-- **Given arguments are honoured.** -/
theorem honours_of_isGiven (hc : f.registry.resolve model = .ok c)
    (hwhole : f.statement model f.selectAll conditions sortBy none = .ok whole)
    (h : f.IsGiven limit offset) :
    f.Honours c whole model conditions sortBy limit offset := by
  rcases findMany_cases hc hwhole with
    ⟨hrefused, -⟩ | ⟨-, hwords⟩ | ⟨w, hpositive, hnonnegative, hl, ho, hcases⟩
  · exact .inl hrefused
  · exact absurd h.hasWords hwords
  · rw [← Value.orDefault_eq_taken h.limit_kept] at hl
    have ho := offset_denotes_taken h.offset_kept ho
    rcases hcases with ⟨-, -, hasks⟩ | ⟨hlong, -⟩
    · exact .inr ⟨w, hpositive, hnonnegative, hasks, hl, ho⟩
    · have hlimit := h.written w.limit (.inl hl)
      have hoffset := h.written w.offset (.inr ho)
      omega

/-- A limit that is not positive, and counts, is refused if there are words for it. -/
theorem isRefused_iff_of_nonpositive (hc : f.registry.resolve model = .ok c)
    (hwhole : f.statement model f.selectAll conditions sortBy none = .ok whole)
    (hkept : limit.isTruthy = true) {n : Int} (hn : limit.Denotes n) (hnonpositive : n ≤ 0) :
    IsRefused (f.findMany model conditions sortBy limit offset) ↔ HasWords limit offset := by
  rcases findMany_cases hc hwhole with
    ⟨hrefused, hwords⟩ | ⟨hwordless, hwords⟩ | ⟨w, hpositive, -, hl, -⟩
  · exact iff_of_true hrefused hwords
  · exact iff_of_false hwordless.not_isRefused hwords
  · rw [if_pos hkept] at hl
    have hsame := hn.unique hl
    omega

/-- **Of arguments that are not refused, exactly the given ones are honoured.**

Suppose that a model has a container, and that a statement with the given conditions and sort is
built.  Whatever the limit and the offset are, a call either refuses them and asks nothing, or it asks
once for a window with the numbers that they denote, zero and the default limit standing for what is
not given, exactly if neither was replaced: a limit that counts as nothing is, and so is an offset that
does and is no zero.  (The numbers must be such that they can be written.)  A limit that counts and is
not positive is refused exactly if it and the offset can be put into words. -/
theorem honours_iff_isGiven (f : Facade) (hc : f.registry.resolve model = .ok c)
    (hwhole : f.statement model f.selectAll conditions sortBy none = .ok whole)
    (limit offset : Value) :
    (f.Honours c whole model conditions sortBy limit offset ↔
      IsRefused (f.findMany model conditions sortBy limit offset) ∨ f.IsGiven limit offset) ∧
    ∀ n ≤ 0, limit.Denotes n → limit.isTruthy = true →
      (IsRefused (f.findMany model conditions sortBy limit offset) ↔ HasWords limit offset) := by
  refine ⟨⟨fun h => ?_, ?_⟩, fun n hn hlimit hkept =>
    isRefused_iff_of_nonpositive hc hwhole hkept hlimit hn⟩
  · by_cases hrefused : IsRefused (f.findMany model conditions sortBy limit offset)
    · exact .inl hrefused
    · exact .inr (h.isGiven hc hwhole hrefused)
  · rintro (hrefused | hgiven)
    · exact .inl hrefused
    · exact honours_of_isGiven hc hwhole hgiven

/-- A limit in text, with blanks, a sign, a gap and zeros, and a truth value for an offset are
honoured. -/
theorem padded_limit_is_honoured :
    let c := Script.toContainer {} "users"
    let f : Facade := ⟨⟨[("user", .container c)], false⟩, .identity, .standard⟩
    ∃ whole, f.registry.resolve (.str "user") = .ok c ∧
      f.statement (.str "user") f.selectAll .null .null none = .ok whole ∧
      f.Honours c whole (.str "user") .null .null (.str " +0_7.0 ") (.bool false) := by
  intro c f
  obtain ⟨whole, hwhole⟩ : ∃ whole, f.statement (.str "user") f.selectAll .null .null none =
      .ok whole := ⟨_, rfl⟩
  have hc : f.registry.resolve (.str "user") = .ok c := rfl
  have hseven : (Value.str " +0_7.0 ").Denotes 7 :=
    .inr ⟨" +0_7.0 ", rfl, Text.Says.of_readPadded (by decide +kernel)⟩
  have hzero : (Value.bool false).Denotes 0 := .inl rfl
  have hwritten : ∀ n < 10, n < 10 ^ Text.maxDigits := fun n hn =>
    Nat.lt_of_lt_of_le hn (Nat.le_self_pow (by decide) 10)
  have hgiven : f.IsGiven (.str " +0_7.0 ") (.bool false) := by
    refine ⟨.inr rfl, .inr (.inr hzero), ⟨rfl, rfl⟩, ?_⟩
    rintro n (hn | hn)
    · rw [Value.Denotes.unique hn hseven]
      exact hwritten 7 (by decide)
    · rw [Value.Denotes.unique hn hzero]
      exact hwritten 0 (by decide)
  exact ⟨whole, hc, hwhole,
    (honours_iff_isGiven f hc hwhole (.str " +0_7.0 ") (.bool false)).1.mpr (.inr hgiven)⟩

/-- A limit of zero is replaced by the default and not refused, and so is an offset of no digits. -/
theorem zero_limit_is_replaced :
    let c := Script.toContainer {} "users"
    let f : Facade := ⟨⟨[("user", .container c)], false⟩, .identity, .standard⟩
    ∃ whole, f.statement (.str "user") f.selectAll .null .null none = .ok whole ∧
      (AsksFor c whole (f.findMany (.str "user") .null .null (.int 0) .null) ⟨100, 0⟩ ∧
        ¬f.Honours c whole (.str "user") .null .null (.int 0) .null) ∧
      AsksFor c whole (f.findMany (.str "user") .null .null (.int 5) (.str "")) ⟨5, 0⟩ ∧
        ¬f.Honours c whole (.str "user") .null .null (.int 5) (.str "") := by
  intro c f
  obtain ⟨whole, hwhole⟩ : ∃ whole, f.statement (.str "user") f.selectAll .null .null none =
      .ok whole := ⟨_, rfl⟩
  have hc : f.registry.resolve (.str "user") = .ok c := rfl
  have hwritten : ∀ n < 10 ^ 3, n < 10 ^ Text.maxDigits := fun n hn =>
    Nat.lt_of_lt_of_le hn (Nat.pow_le_pow_right (by decide) (by decide : 3 ≤ Text.maxDigits))
  have hlimit : AsksFor c whole (f.findMany (.str "user") .null .null (.int 0) .null) ⟨100, 0⟩ :=
    findMany_asksFor hc hwhole rfl (hwritten 100 (by decide)) (hwritten 0 (by decide))
  have hoffset : AsksFor c whole (f.findMany (.str "user") .null .null (.int 5) (.str "")) ⟨5, 0⟩ :=
    findMany_asksFor hc hwhole rfl (hwritten 5 (by decide)) (hwritten 0 (by decide))
  refine ⟨whole, hwhole, ⟨hlimit, fun h => ?_⟩, hoffset, fun h => ?_⟩
  · have hgiven := h.isGiven hc hwhole fun hrefused => hlimit.ne_nil hrefused.1
    rcases hgiven.limit_kept with hnull | htrue
    · cases hnull
    · cases htrue
  · have hgiven := h.isGiven hc hwhole fun hrefused => hoffset.ne_nil hrefused.1
    rcases hgiven.offset_kept with hnull | htrue | hn | ⟨s, hs, hsays⟩
    · cases hnull
    · cases htrue
    · cases hn
    · cases hs
      exact hsays.ne_nil rfl

end Facade

end Docstore
