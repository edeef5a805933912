import Docstore.Proofs.Query.Binding

/-!
# Reading filters

The text of a filter as a store reads it: words, placeholders and punctuation, which make up atoms,
which the words `AND` and `OR` join.  `AND` binds tighter than `OR`, and `1=1` is true.  The symbols
and the names of functions are those of the store; the reading knows nothing of how statements are
built.

* `tokens_append_blank` — a blank separates what stands before it from what stands behind it.
* `holds_grouped` — a filter is true exactly if the chain of its atoms is.
-/

namespace Docstore.Filter

/-! ## Tokens -/

/-- A word, placeholder or punctuation mark. -/
inductive Token where
  | word (s : String)
  | placeholder (name : String)
  | opening
  | closing
  | comma
deriving DecidableEq

/-- The characters that words consist of: no blanks, marks of placeholders or punctuation. -/
def isPart (c : Char) : Bool :=
  !Text.isBlank c && c != '@' && c != '(' && c != ')' && c != ','

/-- The token that collected characters are. -/
def lexeme : List Char → List Token
  | [] => []
  | '@' :: cs => [.placeholder (String.ofList ('@' :: cs))]
  | cs => [.word (String.ofList cs)]

/-- The tokens of collected characters and a text. -/
def tokens (collected : List Char) : List Char → List Token
  | [] => lexeme collected
  | c :: rest =>
    if c = '(' then lexeme collected ++ .opening :: tokens [] rest
    else if c = ')' then lexeme collected ++ .closing :: tokens [] rest
    else if c = ',' then lexeme collected ++ .comma :: tokens [] rest
    else if Text.isBlank c then lexeme collected ++ tokens [] rest
    else if c = '@' then lexeme collected ++ tokens ['@'] rest
    else tokens (collected ++ [c]) rest

theorem tokens_nil (collected : List Char) : tokens collected [] = lexeme collected := rfl

theorem tokens_opening (collected rest : List Char) :
    tokens collected ('(' :: rest) = lexeme collected ++ .opening :: tokens [] rest := rfl

theorem tokens_closing (collected rest : List Char) :
    tokens collected (')' :: rest) = lexeme collected ++ .closing :: tokens [] rest := rfl

theorem tokens_comma (collected rest : List Char) :
    tokens collected (',' :: rest) = lexeme collected ++ .comma :: tokens [] rest := rfl

theorem tokens_blank (collected rest : List Char) :
    tokens collected (' ' :: rest) = lexeme collected ++ tokens [] rest := rfl

/-- **A blank separates** what stands before it from what stands behind it. -/
theorem tokens_append_blank : ∀ (cs collected rest : List Char),
    tokens collected (cs ++ ' ' :: rest) = tokens collected cs ++ tokens [] rest
  | [], collected, rest => tokens_blank collected rest
  | c :: cs, collected, rest => by
    rw [List.cons_append, tokens, tokens]
    simp only [tokens_append_blank cs]
    split_ifs <;> simp

/-- Characters of words are collected. -/
theorem tokens_append_part : ∀ {w : List Char} (collected rest : List Char),
    (∀ c ∈ w, isPart c = true) → tokens collected (w ++ rest) = tokens (collected ++ w) rest
  | [], collected, rest, _ => by simp
  | c :: w, collected, rest, hw => by
    have hc := hw c (by simp)
    simp only [isPart, Bool.and_eq_true, Bool.not_eq_true', bne_iff_ne, ne_eq] at hc
    obtain ⟨⟨⟨⟨hblank, hat⟩, hopening⟩, hclosing⟩, hcomma⟩ := hc
    rw [List.cons_append, tokens, if_neg hopening, if_neg hclosing, if_neg hcomma,
      if_neg (by simp [hblank]), if_neg hat,
      tokens_append_part _ rest fun d hd => hw d (List.mem_cons_of_mem c hd), List.append_assoc]
    rfl

/-- A text that is a word. -/
structure IsWord (s : String) : Prop where
  nonempty : s ≠ ""
  parts : ∀ c ∈ s.toList, isPart c = true

instance (s : String) : Decidable (IsWord s) :=
  decidable_of_iff (s ≠ "" ∧ s.toList.all isPart = true)
    ⟨fun h => ⟨h.1, List.all_eq_true.mp h.2⟩, fun h => ⟨h.nonempty, List.all_eq_true.mpr h.parts⟩⟩

theorem IsWord.lexeme {s : String} (h : IsWord s) : lexeme s.toList = [.word s] := by
  have hparts := h.parts
  cases hs : s.toList with
  | nil => exact absurd (String.toList_eq_nil_iff.mp hs) h.nonempty
  | cons c cs =>
    have hc : c ≠ '@' := by
      rintro rfl
      rw [hs] at hparts
      exact absurd (hparts '@' (by simp)) (by decide)
    rw [hs] at hparts
    unfold Filter.lexeme
    split
    · rename_i heq
      cases heq
    · rename_i heq
      cases heq
      exact absurd rfl hc
    · rw [← hs, String.ofList_toList]

/-- The tokens of a text that starts with a word. -/
theorem tokens_word {s : String} (h : IsWord s) (rest : List Char) :
    tokens [] (s.toList ++ rest) = tokens s.toList rest := by
  rw [tokens_append_part [] rest h.parts, List.nil_append]

/-- The tokens of a text that starts with a placeholder. -/
theorem tokens_placeholder (number : Nat) (rest : List Char) :
    tokens [] ((Binder.placeholder number).toList ++ rest) =
      tokens (Binder.placeholder number).toList rest := by
  have hparts : ∀ c ∈ 'p' :: 'a' :: 'r' :: 'a' :: 'm' :: Nat.toDigits 10 number,
      isPart c = true := by
    intro c hc
    simp only [List.mem_cons] at hc
    rcases hc with rfl | rfl | rfl | rfl | rfl | hc
    any_goals decide
    have hdigit := Nat.isDigit_of_mem_toDigits (by decide) (by decide) hc
    simp only [isPart, Text.isBlank_of_isDigit hdigit]
    have hne : c ≠ '@' ∧ c ≠ '(' ∧ c ≠ ')' ∧ c ≠ ',' := by
      refine ⟨?_, ?_, ?_, ?_⟩ <;> (rintro rfl; revert hdigit; decide)
    simp [hne]
  have hchars : (Binder.placeholder number).toList =
      '@' :: 'p' :: 'a' :: 'r' :: 'a' :: 'm' :: Nat.toDigits 10 number := by
    rw [Binder.placeholder_toList]
    rfl
  rw [hchars, List.cons_append]
  exact tokens_append_part ['@'] rest hparts

theorem lexeme_placeholder (number : Nat) : lexeme (Binder.placeholder number).toList =
    [.placeholder (Binder.placeholder number)] := by
  have hchars : (Binder.placeholder number).toList =
      '@' :: ('p' :: 'a' :: 'r' :: 'a' :: 'm' :: Nat.toDigits 10 number) := by
    rw [Binder.placeholder_toList]
    rfl
  rw [hchars, lexeme, ← hchars, String.ofList_toList]

/-! ## Expressions -/

/-- A filter. -/
inductive Expr where
  | always
  | atom (op : Operator) (field placeholder : String)
  | and (left right : Expr)
  | or (left right : Expr)

/-- The operator that a symbol between a field and a placeholder stands for. -/
def ofSymbol? (s : String) : Option Operator :=
  [("=", Operator.eq), ("!=", .ne), ("<", .lt), ("<=", .lte), (">", .gt), (">=", .gte)].lookup s

/-- The operator that a function of a field and a placeholder stands for. -/
def ofFunction? (s : String) : Option Operator :=
  [("STARTS_WITH", Operator.startsWith), ("ENDS_WITH", .endsWith),
    ("CONTAINS", .contains)].lookup s

/-- Reads the atom that starts with a word, from the tokens behind the word. -/
def readAtom (w : String) : List Token → Option (Expr × List Token)
  | .opening :: .placeholder p :: .comma :: .word field :: .closing :: rest =>
    if w = "ARRAY_CONTAINS" then some (.atom .isIn field p, rest) else none
  | .opening :: .word field :: .comma :: .placeholder p :: .closing :: rest =>
    (ofFunction? w).map fun op => (.atom op field p, rest)
  | .word symbol :: .placeholder p :: rest =>
    (ofSymbol? symbol).map fun op => (.atom op w p, rest)
  | _ => none

/-- Reads one operand of a chain. -/
def readOperand : List Token → Option (Expr × List Token)
  | .word w :: rest => if w = "1=1" then some (.always, rest) else readAtom w rest
  | _ => none

/-- Whether a token ends the filter of a statement. -/
def isEnd (t : Token) : Bool :=
  t = .word "ORDER" || t = .word "OFFSET"

/-- The connector that a token is. -/
def connector? (t : Token) : Option Connector :=
  if t = .word "AND" then some .and else if t = .word "OR" then some .or else none

theorem readAtom_length {w : String} {ts rest : List Token} {e : Expr}
    (h : readAtom w ts = some (e, rest)) : rest.length ≤ ts.length := by
  unfold readAtom at h
  split at h
  · split at h <;> cases h
    simp
    omega
  · obtain ⟨op, -, h⟩ := Option.map_eq_some_iff.mp h
    cases h
    simp
    omega
  · obtain ⟨op, -, h⟩ := Option.map_eq_some_iff.mp h
    cases h
    simp
    omega
  · cases h

theorem readOperand_length {ts rest : List Token} {e : Expr}
    (h : readOperand ts = some (e, rest)) : rest.length < ts.length := by
  unfold readOperand at h
  split at h
  · split at h
    · cases h
      simp
    · have hlen := readAtom_length h
      simp
      omega
  · cases h

/-- Reads the operands of a chain behind the first one, each with the connector before it. -/
def readChain (ts : List Token) : Option (List (Connector × Expr)) :=
  match ts with
  | [] => some []
  | t :: rest =>
    if isEnd t then some []
    else match connector? t with
      | none => none
      | some k => match _h : readOperand rest with
        | none => none
        | some (e, rest') => (readChain rest').map ((k, e) :: ·)
termination_by ts.length
decreasing_by
  have hlen := readOperand_length _h
  simp
  omega

/-- Tokens that do not continue a filter. -/
def EndsFilter (ts : List Token) : Prop :=
  ∀ t rest, ts = t :: rest → isEnd t = true

theorem EndsFilter.append {ts us : List Token} (ht : EndsFilter ts) (hu : EndsFilter us) :
    EndsFilter (ts ++ us) := by
  intro t rest h
  cases ts with
  | nil => exact hu t rest h
  | cons v vs =>
    cases h
    exact ht t vs rfl

theorem readChain_end {ts : List Token} (h : EndsFilter ts) : readChain ts = some [] := by
  cases ts with
  | nil => rw [readChain]
  | cons t rest => rw [readChain, if_pos (h t rest rfl)]

theorem readChain_cons {t : Token} {k : Connector} {ts rest : List Token} {e : Expr}
    (hend : isEnd t = false) (hk : connector? t = some k) (he : readOperand ts = some (e, rest)) :
    readChain (t :: ts) = (readChain rest).map ((k, e) :: ·) := by
  rw [readChain, hend, if_neg Bool.false_ne_true, hk]
  dsimp only
  split
  · rename_i hnone
    rw [he] at hnone
    cases hnone
  · rename_i e' rest' hsome
    rw [he] at hsome
    cases hsome
    rfl

/-- The filter that a chain is: `AND` binds tighter than `OR`. -/
def grouped (first : Expr) : List (Connector × Expr) → Expr
  | [] => first
  | (.and, e) :: rest => grouped (.and first e) rest
  | (.or, e) :: rest => .or first (grouped e rest)

/-- Reads the filter of a statement from the tokens behind its selection.  Without a filter all
documents are selected. -/
def read : List Token → Option Expr
  | [] => some .always
  | t :: rest =>
    if isEnd t then some .always
    else if t = .word "WHERE" then do
      let (first, rest') ← readOperand rest
      let chain ← readChain rest'
      return grouped first chain
    else none

theorem read_end {ts : List Token} (h : EndsFilter ts) : read ts = some .always := by
  cases ts with
  | nil => rfl
  | cons t rest => rw [read, if_pos (h t rest rfl)]

theorem read_anchor {ts : List Token} {chain : List (Connector × Expr)}
    (h : readChain ts = some chain) :
    read (.word "WHERE" :: .word "1=1" :: ts) = some (grouped .always chain) := by
  have hend : isEnd (.word "WHERE") = false := by decide
  have hanchor : readOperand (.word "1=1" :: ts) = some (.always, ts) := rfl
  rw [read, hend, if_neg Bool.false_ne_true, if_pos rfl, hanchor]
  simp [h]

/-! ## Truth -/

/-- What the ten operators say of a field and a datum. -/
abbrev Interpretation := (op : Operator) → (field : String) → (operand : Datum) → Bool

/-- Whether a filter is true, the placeholders standing for parameters. -/
def Expr.holds (meaning : Interpretation) (parameters : List Parameter) : Expr → Option Bool
  | .always => some true
  | .atom op field p => (datumOf parameters p).map (meaning op field)
  | .and l r => do
    let x ← l.holds meaning parameters
    let y ← r.holds meaning parameters
    return x && y
  | .or l r => do
    let x ← l.holds meaning parameters
    let y ← r.holds meaning parameters
    return x || y

/-- Whether a chain of truth values is true: `AND` binds tighter than `OR`. -/
def truth (first : Bool) : List (Connector × Bool) → Bool
  | [] => first
  | (.and, b) :: rest => truth (first && b) rest
  | (.or, b) :: rest => first || truth b rest

/-- **A filter is true exactly if the chain of its operands is.** -/
theorem holds_grouped {meaning : Interpretation} {parameters : List Parameter} :
    ∀ {chain : List (Connector × Expr)} {values : List (Connector × Bool)} {first : Expr}
      {b : Bool}, first.holds meaning parameters = some b →
      List.Forall₂ (fun x y => x.1 = y.1 ∧ x.2.holds meaning parameters = some y.2) chain values →
      (grouped first chain).holds meaning parameters = some (truth b values)
  | _, _, _, _, hfirst, .nil => hfirst
  | (k, e) :: chain, (l, y) :: values, first, b, hfirst, .cons hstep hrest => by
    obtain ⟨hk, he⟩ := hstep
    dsimp only at hk he
    subst hk
    cases k with
    | and =>
      -- what `AND` joins is the first operand of what follows
      have hand : (Expr.and first e).holds meaning parameters = some (b && y) := by
        rw [Expr.holds, hfirst, he]
        rfl
      rw [grouped, truth]
      exact holds_grouped hand hrest
    | or =>
      rw [grouped, Expr.holds, hfirst, holds_grouped he hrest]
      rfl

end Docstore.Filter
