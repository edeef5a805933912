import Docstore.Proofs.Query.Outline

/-!
# Page windows as a store reads them

The offset and the limit of a page window are bound like any other literal, so each may share its
placeholder with the other or with the value of a condition.  A store takes the two numbers from the
parameters.  Whatever was bound before, what it finds there are the offset and the limit, because
only an integer has the text of an integer; and what stands before the window is the statement
without one, with the parameters of that.

* `Json.write_eq_ofInt` — only an integer is written as an integer.
* `Query.window?` — the window that a query says, as a store reads it.
* `Query.IsWindowOf` — a query that asks for a window of what another query asks for.
* `Statement.build_isWindowOf` — with a window, a statement asks for this window of what it asks for
  without.
* `Statement.build_unwritable` — a window whose numbers cannot be written is not built.
-/

namespace Docstore

/-! ## Integers as literals -/

/-- **Only an integer is written as an integer.** -/
theorem Json.write_eq_ofInt {v : Value} {n : Int} (h : Json.write v = .ok (Text.ofInt n).toList) :
    v = .int n := by
  obtain ⟨c, cs, hchars, hkind⟩ := Datum.kindOf_ofInt n
  -- the first character of the text tells that it is that of a number
  have hfirst : ∀ d rest, Datum.kindOf d ≠ some .number →
      (.ok (d :: rest) : Except Fault (List Char)) ≠ .ok (Text.ofInt n).toList := by
    intro d rest hd heq
    rw [hchars] at heq
    cases heq
    exact hd hkind
  cases v with
  | int m =>
    rw [write, int] at h
    split at h
    · rw [Json.ofInt_injective (Except.ok.inj h)]
    · cases h
  | float x => exact absurd (Except.ok.inj h).symm (Json.ofInt_ne_float n x)
  | bool b => cases b <;> exact absurd h (hfirst _ _ (by decide))
  | null | str | operator | connector | direction => exact absurd h (hfirst _ _ (by decide))
  | list items | tuple items =>
    obtain ⟨texts, -, h⟩ := bind_eq_ok.mp h
    exact absurd h (hfirst _ _ (by decide))
  | dict entries =>
    obtain ⟨sorted, -, h⟩ := bind_eq_ok.mp h
    obtain ⟨texts, -, h⟩ := bind_eq_ok.mp h
    exact absurd h (hfirst _ _ (by decide))
  | _ => cases h

/-- An integer has a canonical key if it has no more digits than are ever written. -/
theorem Value.canonicalKey_int {n : Int} (h : n.natAbs < 10 ^ Text.maxDigits) :
    (Value.int n).canonicalKey = .ok (Text.ofInt n) := by
  have hwrite : Json.write (.int n) = .ok (Text.ofInt n).toList := by
    rw [Json.write, Json.int, if_pos (Json.isWritable_iff.mpr h)]
  exact canonicalKey_eq_ok.mpr ⟨.int n, _, rfl, hwrite, String.ofList_toList.symm⟩

namespace Binder

variable {b b' : Binder} {v : Value} {l : Literal} {p : String} {n : Int} {number : Nat}

/-- An integer with more digits is not bound. -/
theorem bind_unwritable (h : 10 ^ Text.maxDigits ≤ n.natAbs) :
    b.bind (.int n) = .error (.flawed .tooLongToWrite) := by
  have hdigits : ¬ Text.isWritable n = true := fun hwritable =>
    Nat.not_lt.mpr h (Json.isWritable_iff.mp hwritable)
  have hkey : (Value.int n).canonicalKey = .error (.flawed .tooLongToWrite) := by
    have hwrite : Json.write (.int n) = .error (.flawed .tooLongToWrite) := by
      rw [Json.write, Json.int, if_neg hdigits]
    change Except.bind (Json.write (.int n)) _ = _
    rw [hwrite]
    rfl
  rw [Binder.bind, literal, hkey]
  rfl

/-- The key of every literal is the text of its value. -/
def IsWritten (b : Binder) : Prop :=
  ∀ l ∈ b.bound, Json.write l.value = .ok l.key.toList

theorem isWritten_empty : IsWritten {} := by
  intro l hl
  cases hl

theorem literal_isWritten (h : literal v = .ok l) : Json.write l.value = .ok l.key.toList := by
  obtain ⟨hkey, hdata⟩ := literal_eq_ok.mp h
  obtain ⟨d, hd, hwrite⟩ := Value.canonicalKey_eq_ok_iff.mp hkey
  cases hd.symm.trans hdata
  exact hwrite

theorem IsWritten.bind (hb : b.IsWritten) (h : b.bind v = .ok (p, b')) : b'.IsWritten := by
  rcases bind_bound h with hbound | ⟨l, hl, hbound⟩
  · rwa [IsWritten, hbound]
  · intro m hm
    rw [hbound] at hm
    rcases List.mem_append.mp hm with hm | hm
    · exact hb m hm
    · rw [List.mem_singleton.mp hm]
      exact literal_isWritten hl

/-- A value is what a number stands for. -/
def Stores (b : Binder) (number : Nat) (v : Value) : Prop :=
  ∃ l, b.bound[number]? = some l ∧ l.value = v

theorem Stores.mono (h : b.Stores number v) (hext : b.bound <+: b'.bound) : b'.Stores number v := by
  obtain ⟨l, hl, hvalue⟩ := h
  exact ⟨l, getElem?_of_bound hext hl, hvalue⟩

/-- A value that is bound gets the number of a literal with its key. -/
theorem bind_number (h : b.bind v = .ok (p, b')) : ∃ number l m, p = placeholder number ∧
    literal v = .ok l ∧ b'.bound[number]? = some m ∧ m.key = l.key := by
  obtain ⟨l, hl, hallot⟩ := map_eq_ok.mp h
  unfold allot at hallot
  split at hallot
  · rename_i number hfound
    cases hallot
    obtain ⟨hlt, hsame, -⟩ := List.findIdx?_eq_some_iff_getElem.mp hfound
    exact ⟨number, l, b.bound[number], rfl, hl, List.getElem?_eq_getElem hlt, beq_iff_eq.mp hsame⟩
  · cases hallot
    exact ⟨b.bound.length, l, l, rfl, hl, by simp, rfl⟩

/-- **An integer is bound to itself**, whatever was bound before. -/
theorem bind_int (hb : b.IsWritten) (h : n.natAbs < 10 ^ Text.maxDigits) :
    ∃ number b', b.bind (.int n) = .ok (placeholder number, b') ∧ b'.IsWritten ∧
      b.bound <+: b'.bound ∧ b'.Stores number (.int n) := by
  have hkey : (Value.int n).canonicalKey = .ok (Text.ofInt n) := Value.canonicalKey_int h
  obtain ⟨_, b', hbind, -⟩ := bind_ok_of_canonicalKey (b := b) hkey
  obtain ⟨number, l, m, hp, hl, hm, hsame⟩ := bind_number hbind
  rw [hp] at hbind
  have hb' : b'.IsWritten := hb.bind hbind
  refine ⟨number, b', hbind, hb', bind_prefix hbind, m, hm, ?_⟩
  have hlkey : l.key = Text.ofInt n :=
    Except.ok.inj ((literal_eq_ok.mp hl).1.symm.trans hkey)
  have hwritten := hb' m (List.mem_of_getElem? hm)
  rw [hsame, hlkey] at hwritten
  exact Json.write_eq_ofInt hwritten

end Binder

/-! ## Windows that queries say -/

namespace Query

/-- The integer that a name stands for in a query. -/
def integerAt? (q : Query) (name : String) : Option Int :=
  match (q.parameters.find? (·.name == name)).map (·.value) with
  | some (Value.int n) => some n
  | _ => none

/-- The words of a page window. -/
def windowTokens (offset limit : String) : List Filter.Token :=
  [.word "OFFSET", .placeholder offset, .word "LIMIT", .placeholder limit]

/-- The window that a query says in its last words: the integers that the placeholders behind
`OFFSET` and `LIMIT` stand for. -/
def window? (q : Query) : Option Window :=
  match (Filter.tokens [] q.statement.toList).reverse with
  | .placeholder limit :: .word "LIMIT" :: .placeholder offset :: .word "OFFSET" :: _ => do
    let l ← q.integerAt? limit
    let o ← q.integerAt? offset
    return ⟨l, o⟩
  | _ => none

/-- A query asks for a window of what another query asks for: it says the same with the same
parameters, and then the window. -/
structure IsWindowOf (q whole : Query) (w : Window) : Prop where
  tokens : ∃ offset limit, Filter.tokens [] q.statement.toList =
    Filter.tokens [] whole.statement.toList ++ windowTokens offset limit
  parameters : whole.parameters <+: q.parameters
  window : q.window? = some w

theorem integerAt?_placeholder {b : Binder} {number : Nat} {n : Int} (statement : String)
    (h : b.Stores number (.int n)) :
    (⟨statement, b.parameters⟩ : Query).integerAt? (Binder.placeholder number) = some n := by
  obtain ⟨l, hl, hvalue⟩ := h
  have hfind : b.parameters.find? (·.name == Binder.placeholder number) =
      some ⟨Binder.placeholder number, l.value⟩ := by
    rw [Binder.parameters, Binder.find?_zipIdx number b.bound 0 (Nat.zero_le _), Nat.sub_zero, hl]
    rfl
  rw [integerAt?, hfind, Option.map_some, hvalue]

/-- Behind a window's words nothing is read. -/
theorem window?_of_tokens {q : Query} {front : List Filter.Token} {offset limit : String} {o l : Int}
    (h : Filter.tokens [] q.statement.toList = front ++ windowTokens offset limit)
    (ho : q.integerAt? offset = some o) (hl : q.integerAt? limit = some l) :
    q.window? = some ⟨l, o⟩ := by
  have hreverse : (Filter.tokens [] q.statement.toList).reverse =
      .placeholder limit :: .word "LIMIT" :: .placeholder offset :: .word "OFFSET" ::
        front.reverse := by
    rw [h, List.reverse_append]
    rfl
  rw [window?, hreverse]
  simp [ho, hl]

end Query

namespace Statement

variable {names : FieldNames} {select : String} {conditions sortBy : Value} {w : Window}
  {whole : Query} {b : Binder}

/-- The tokens of a statement are those of its parts. -/
theorem tokens_parts (parts : List String) : Filter.tokens [] (joined parts).toList =
    parts.flatMap fun t => Filter.tokens [] t.toList := by
  rw [joined, Filter.tokens_intercalate, Filter.flatMap_nonempty rfl]

theorem tokens_pageText (offset limit : Nat) :
    Filter.tokens [] (pageText [Binder.placeholder offset, Binder.placeholder limit]).toList =
      Query.windowTokens (Binder.placeholder offset) (Binder.placeholder limit) := by
  have hchars : (pageText [Binder.placeholder offset, Binder.placeholder limit]).toList =
      "OFFSET".toList ++ ' ' :: ((Binder.placeholder offset).toList ++
        ' ' :: ("LIMIT".toList ++ ' ' :: ((Binder.placeholder limit).toList ++ []))) := by
    simp [pageText]
  rw [hchars, tokens_part (by decide), Filter.tokens_placeholder, Filter.tokens_blank,
    tokens_part (by decide), Filter.tokens_placeholder, Filter.tokens_nil,
    Filter.lexeme_placeholder, Filter.lexeme_placeholder]
  rfl

/-- **A page window says its offset and its limit**, whatever was bound before it. -/
theorem page_stores (hb : b.IsWritten) (hoffset : w.offset.natAbs < 10 ^ Text.maxDigits)
    (hlimit : w.limit.natAbs < 10 ^ Text.maxDigits) : ∃ offset limit b',
      page (some w) b =
        (.ok (pageText [Binder.placeholder offset, Binder.placeholder limit]), b') ∧
      b.bound <+: b'.bound ∧ b'.Stores offset (.int w.offset) ∧ b'.Stores limit (.int w.limit) := by
  obtain ⟨offset, b₁, hbind, hb₁, hext, hstores⟩ := Binder.bind_int hb hoffset
  obtain ⟨limit, b₂, hbind₂, -, hext₂, hstores₂⟩ := Binder.bind_int hb₁ hlimit
  refine ⟨offset, limit, b₂, ?_, hext.trans hext₂, hstores.mono hext₂, hstores₂⟩
  rw [page, hbind]
  simp only [hbind₂]
  rfl

/-- A page window with a number of more digits than are ever written is not built. -/
theorem page_unwritable (b : Binder) (h : 10 ^ Text.maxDigits ≤ w.limit.natAbs ∨
    10 ^ Text.maxDigits ≤ w.offset.natAbs) :
    ∃ b', page (some w) b = (.error (.flawed .tooLongToWrite), b') := by
  by_cases hoffset : 10 ^ Text.maxDigits ≤ w.offset.natAbs
  · exact ⟨b, by rw [page, Binder.bind_unwritable hoffset]⟩
  · have hlimit : 10 ^ Text.maxDigits ≤ w.limit.natAbs := h.resolve_right hoffset
    have hkey := Value.canonicalKey_int (Nat.not_le.mp hoffset)
    obtain ⟨number, b₁, hbind, -⟩ := Binder.bind_ok_of_canonicalKey (b := b) hkey
    refine ⟨b₁, ?_⟩
    rw [page, hbind]
    simp only [Binder.bind_unwritable hlimit]

/-- The literals that a filter binds are written as their keys. -/
theorem filter_isWritten {text : String} (h : filter names conditions {} = (.ok text, b)) :
    b.IsWritten := by
  obtain ⟨cs, slots, ps, -, -, hbind, -⟩ := filter_slots h
  exact Binder.bindAll_keeps Binder.IsWritten.bind Binder.isWritten_empty hbind

/-- **With a window, a statement asks for this window** of what it asks for without. -/
theorem build_isWindowOf (hwhole : build names select conditions sortBy none = .ok whole)
    (hlimit : w.limit.natAbs < 10 ^ Text.maxDigits)
    (hoffset : w.offset.natAbs < 10 ^ Text.maxDigits) :
    ∃ q, build names select conditions sortBy (some w) = .ok q ∧ q.IsWindowOf whole w := by
  obtain ⟨filterText, b, sortText, _, _, hfilter, hsort, hnone, rfl⟩ := build_eq_ok.mp hwhole
  cases hnone
  obtain ⟨offset, limit, b', hpage, hext, ho, hl⟩ :=
    page_stores (filter_isWritten hfilter) hoffset hlimit
  refine ⟨_, build_eq_ok.mpr ⟨filterText, b, sortText, _, b', hfilter, hsort, hpage, rfl⟩, ?_⟩
  have htokens : Filter.tokens [] (joined [select, filterText, sortText,
      pageText [Binder.placeholder offset, Binder.placeholder limit]]).toList =
      Filter.tokens [] (joined [select, filterText, sortText, ""]).toList ++
        Query.windowTokens (Binder.placeholder offset) (Binder.placeholder limit) := by
    rw [tokens_parts, tokens_parts, ← tokens_pageText]
    simp [Filter.tokens, Filter.lexeme]
  exact ⟨⟨_, _, htokens⟩, Binder.parameters_prefix hext, Query.window?_of_tokens htokens
    (Query.integerAt?_placeholder _ ho) (Query.integerAt?_placeholder _ hl)⟩

/-- With a number of more digits than are ever written, no statement is built. -/
theorem build_unwritable (hwhole : build names select conditions sortBy none = .ok whole)
    (h : 10 ^ Text.maxDigits ≤ w.limit.natAbs ∨ 10 ^ Text.maxDigits ≤ w.offset.natAbs) :
    build names select conditions sortBy (some w) = .error (.flawed .tooLongToWrite) := by
  obtain ⟨filterText, b, sortText, _, _, hfilter, hsort, -, -⟩ := build_eq_ok.mp hwhole
  obtain ⟨b', hpage⟩ := page_unwritable b h
  unfold build
  rw [hfilter, hsort]
  simp only [hpage]
  rfl

end Statement

end Docstore
