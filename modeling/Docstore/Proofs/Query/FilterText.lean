import Docstore.Proofs.Query.FilterReading
import Docstore.Proofs.Text.Listed
import Docstore.Query.Statement

/-!
# Reading the filters of statements

What the parts of a statement are read as: the fragment of an operator as the atom of this operator,
a clause as its connector and this atom, and the sort and the page window as the end of the filter.

* `readOperand_fragment` — a fragment is read as the atom of its operator, field and placeholder.
* `tokens_joined` — the tokens of a statement behind its selection are those of its other parts.
-/

namespace Docstore.Filter

/-! ## Fragments -/

/-- The tokens of the fragment of an operator. -/
def fragmentTokens (op : Operator) (field placeholder : String) : List Token :=
  match op.form with
  | .symbol text => [.word field, .word text, .placeholder placeholder]
  | .function name =>
    [.word name, .opening, .word field, .comma, .placeholder placeholder, .closing]
  | .membership =>
    [.word "ARRAY_CONTAINS", .opening, .placeholder placeholder, .comma, .word field, .closing]

section Fragments

variable {field : String} (number : Nat) (hfield : IsWord field)

include hfield

theorem tokens_comparison {symbol : String} (hsymbol : IsWord symbol) :
    tokens [] (field ++ " " ++ symbol ++ " " ++ Binder.placeholder number).toList =
      [.word field, .word symbol, .placeholder (Binder.placeholder number)] := by
  have hchars : (field ++ " " ++ symbol ++ " " ++ Binder.placeholder number).toList =
      field.toList ++
        ' ' :: (symbol.toList ++ ' ' :: ((Binder.placeholder number).toList ++ [])) := by
    simp
  rw [hchars, tokens_word hfield, tokens_blank, tokens_word hsymbol, tokens_blank,
    tokens_placeholder, tokens_nil, hfield.lexeme, hsymbol.lexeme, lexeme_placeholder]
  rfl

theorem tokens_function {name : String} (hname : IsWord name) :
    tokens [] (name ++ "(" ++ field ++ ", " ++ Binder.placeholder number ++ ")").toList =
      [.word name, .opening, .word field, .comma, .placeholder (Binder.placeholder number),
        .closing] := by
  have hchars : (name ++ "(" ++ field ++ ", " ++ Binder.placeholder number ++ ")").toList =
      name.toList ++ '(' :: (field.toList ++ ',' :: ' ' ::
        ((Binder.placeholder number).toList ++ [')'])) := by
    simp
  rw [hchars, tokens_word hname, tokens_opening, tokens_word hfield, tokens_comma, tokens_blank,
    tokens_placeholder, tokens_closing, hname.lexeme, hfield.lexeme, lexeme_placeholder]
  rfl

theorem tokens_membership :
    tokens [] ("ARRAY_CONTAINS(" ++ Binder.placeholder number ++ ", " ++ field ++ ")").toList =
      [.word "ARRAY_CONTAINS", .opening, .placeholder (Binder.placeholder number), .comma,
        .word field, .closing] := by
  have hname : IsWord "ARRAY_CONTAINS" := by decide
  have hchars : ("ARRAY_CONTAINS(" ++ Binder.placeholder number ++ ", " ++ field ++ ")").toList =
      "ARRAY_CONTAINS".toList ++ '(' :: ((Binder.placeholder number).toList ++ ',' :: ' ' ::
        (field.toList ++ [')'])) := by
    simp
  rw [hchars, tokens_word hname, tokens_opening, tokens_placeholder, tokens_comma, tokens_blank,
    tokens_word hfield, tokens_closing, hname.lexeme, hfield.lexeme, lexeme_placeholder]
  rfl

/-- The fragment of an operator has its tokens. -/
theorem tokens_fragment (op : Operator) :
    tokens [] (Fragment.text op field (Binder.placeholder number)).toList =
      fragmentTokens op field (Binder.placeholder number) := by
  cases op
  case isIn => exact tokens_membership number hfield
  case startsWith | endsWith | contains =>
    exact tokens_function number hfield (by decide)
  all_goals exact tokens_comparison number hfield (by decide)

end Fragments

/-- **A fragment is read as the atom** of its operator, field and placeholder. -/
theorem readOperand_fragment (op : Operator) {field : String} (placeholder : String)
    (rest : List Token) (hfield : field ≠ "1=1") :
    readOperand (fragmentTokens op field placeholder ++ rest) =
      some (.atom op field placeholder, rest) := by
  cases op <;>
    simp [fragmentTokens, Operator.form, readOperand, readAtom, hfield, ofSymbol?, ofFunction?,
      List.lookup_cons]

/-! ## Statements -/

/-- The characters of texts joined by blanks. -/
theorem intercalate_cons_toList (t : String) (rest : List String) :
    (" ".intercalate (t :: rest)).toList = t.toList ++ rest.flatMap fun u => ' ' :: u.toList :=
  Text.toList_intercalate " " t rest

theorem tokens_blanks (cs : List Char) : ∀ rest : List String,
    tokens [] (cs ++ rest.flatMap fun u => ' ' :: u.toList) =
      tokens [] cs ++ rest.flatMap fun u => tokens [] u.toList
  | [] => by simp
  | u :: rest => by
    rw [List.flatMap_cons, List.flatMap_cons, List.cons_append, tokens_append_blank,
      tokens_blanks u.toList rest]

/-- The tokens of texts joined by blanks are those of the texts. -/
theorem tokens_intercalate (texts : List String) :
    tokens [] (" ".intercalate texts).toList = texts.flatMap fun t => tokens [] t.toList := by
  cases texts with
  | nil => rfl
  | cons t rest => rw [intercalate_cons_toList, tokens_blanks, List.flatMap_cons]

/-- Empty parts are left out where they give nothing. -/
theorem flatMap_nonempty {α : Type} {f : String → List α} (h : f "" = []) (parts : List String) :
    (parts.filter (!·.isEmpty)).flatMap f = parts.flatMap f := by
  induction parts with
  | nil => rfl
  | cons t rest ih =>
    rw [List.filter_cons, List.flatMap_cons]
    by_cases ht : t = ""
    · subst ht
      simpa [h] using ih
    · have hne : t.isEmpty = false := by simpa using ht
      rw [hne, Bool.not_false, if_pos rfl, List.flatMap_cons, ih]

/-- **The tokens of a statement behind its selection** are those of its other parts. -/
theorem tokens_joined (select : String) (parts : List String) :
    tokens [] ((Statement.joined (select :: parts)).toList.drop select.length) =
      parts.flatMap fun t => tokens [] t.toList := by
  have hparts : (parts.filter (!·.isEmpty)).flatMap (fun t => tokens [] t.toList) =
      parts.flatMap fun t => tokens [] t.toList := flatMap_nonempty rfl parts
  unfold Statement.joined
  rw [← hparts, ← tokens_intercalate, List.filter_cons]
  by_cases hs : select = ""
  · subst hs
    simp
  · have hne : select.isEmpty = false := by simpa using hs
    rw [hne, Bool.not_false, if_pos rfl]
    cases parts.filter (!·.isEmpty) with
    | nil => simp [← String.length_toList, tokens, lexeme]
    | cons t rest =>
      rw [intercalate_cons_toList, ← String.length_toList, List.drop_left, intercalate_cons_toList,
        List.flatMap_cons, List.cons_append, tokens_blank]
      rfl

end Docstore.Filter
