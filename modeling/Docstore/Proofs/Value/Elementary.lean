import Docstore.Proofs.Calendar.ShownTime
import Docstore.Proofs.Number.DecimalText
import Docstore.Proofs.Text.QuotedText
import Docstore.Proofs.Value.StoredData

/-!
# Elementary values as they are shown

The elementary values are those without parts that have a JSON form, and the tuples of elementary
values.  The first character of a shown value tells its sort apart from the others.  Numbers end
where a comma or a bracket follows, and whatever else is shown ends by itself, so the text of a tuple
falls into the texts of its items.

The text that shows an elementary value leaves nothing open that the data it is stored as depends
on; which objects the numbers in it are does not show.

* `spelling_head` — the first character of a shown value tells its sort.
* `storedData_eq_of_spelling_eq` — elementary values that are shown alike are stored as the same
  data.
-/

namespace Docstore

open Text

namespace Binary64

/-- No character of a number ends it. -/
theorem isInner_of_mem_text {x : Binary64} {c : Char} (h : c ∈ x.text.toList) : IsInner c := by
  have hunsigned : ∀ d ∈ x.unsigned plainNames, IsInner d := by
    cases x with
    | nan => simp [unsigned, plainNames, IsInner]
    | infinity => simp [unsigned, plainNames, IsInner]
    | finite negative m e hm =>
      intro d hd
      rcases (isMagnitude_magnitudeText e hm.fits).chars d hd with hd | rfl | rfl | rfl | rfl
      · exact isInner_of_isDigit hd
      all_goals decide
  rw [text, textWith_toList] at h
  split at h
  · rcases List.mem_cons.mp h with rfl | h
    · decide
    · exact hunsigned c h
  · exact hunsigned c h

end Binary64

namespace Uuid

theorem quote_not_mem_text (u : Uuid) : '\'' ∉ u.text.toList := by
  have hhex : '\'' ∉ hex 32 u.bits := by
    intro h
    obtain ⟨d, hd, hc⟩ := mem_hex h
    revert d
    decide
  have hgroup : ∀ start size, '\'' ∉ ((hex 32 u.bits).drop start).take size :=
    fun start size h => hhex (List.mem_of_mem_drop (List.mem_of_mem_take h))
  have hfirst : '\'' ∉ (hex 32 u.bits).take 8 := fun h => hhex (List.mem_of_mem_take h)
  simp [text, hgroup, hfirst]

end Uuid

namespace Value

/-- Whether a value has no parts and a JSON form. -/
def isAtom : Value → Bool
  | .null | .bool _ | .int _ | .float .. | .decimal .. | .str _ | .timestamp _ | .date _ | .uuid _
  | .operator _ | .connector _ | .direction _ => true
  | _ => false

mutual

/-- Whether a value is elementary: without parts and with a JSON form, or a tuple of such values. -/
def isElementary : Value → Bool
  | .tuple items => areElementary items
  | v => v.isAtom

def areElementary : List Value → Bool
  | [] => true
  | v :: rest => v.isElementary && areElementary rest

end

theorem areElementary_iff {items : List Value} :
    areElementary items = true ↔ ∀ v ∈ items, v.isElementary = true := by
  induction items with
  | nil => simp [areElementary]
  | cons v rest ih => simp [areElementary, ih]

/-! ## First characters -/

/-- The sort of an elementary value, by a character that shown values of this sort begin with. -/
def mark : Value → Char
  | .null => 'N'
  | .bool _ => 'T'
  | .int _ | .float .. => '0'
  | .decimal .. => 'D'
  | .str _ => '\''
  | .timestamp _ | .date _ => 'd'
  | .uuid _ => 'U'
  | .tuple _ => '('
  | _ => '<'

/-- The sort that a first character tells. -/
def markOf (c : Char) : Char :=
  if c.isDigit ∨ c = '-' ∨ c = 'n' ∨ c = 'i' then '0'
  else if c = 'F' then 'T'
  else if c = '"' then '\''
  else c

theorem markOf_of_isDigit {c : Char} (h : c.isDigit = true) : markOf c = '0' := by
  rw [markOf, if_pos (.inl h)]

theorem ofInt_head (n : Int) : ∃ c cs, (ofInt n).toList = c :: cs ∧ markOf c = '0' := by
  obtain ⟨d, ds, hds, hd⟩ := Json.toDigits_cons n.natAbs
  rw [Json.ofInt_toList, hds]
  split
  · exact ⟨'-', d :: ds, rfl, rfl⟩
  · exact ⟨d, ds, rfl, markOf_of_isDigit hd⟩

theorem float_head (x : Binary64) : ∃ c cs, x.text.toList = c :: cs ∧ markOf c = '0' := by
  rw [Binary64.text, Binary64.textWith_toList]
  split
  · exact ⟨'-', _, rfl, rfl⟩
  · cases x with
    | nan => exact ⟨'n', ['a', 'n'], rfl, rfl⟩
    | infinity => exact ⟨'i', ['n', 'f'], rfl, rfl⟩
    | finite negative m e hm =>
      obtain ⟨d, ds, hds, hd⟩ := (Binary64.isMagnitude_magnitudeText e hm.fits).head
      exact ⟨d, ds, hds, markOf_of_isDigit hd⟩

theorem decimal_toList (d : Decimal) (object : Nat) : (Value.decimal d object).spelling.toList =
    'D' :: ("ecimal('".toList ++ d.text.toList ++ '\'' :: [')']) := by
  have hspelling : (Value.decimal d object).spelling = "Decimal('" ++ d.text ++ "')" := rfl
  rw [hspelling, String.toList_append, String.toList_append]
  rfl

theorem uuid_toList (u : Uuid) : (Value.uuid u).spelling.toList =
    'U' :: ("UID('".toList ++ u.text.toList ++ '\'' :: [')']) := by
  have hspelling : (Value.uuid u).spelling = "UUID('" ++ u.text ++ "')" := rfl
  rw [hspelling, String.toList_append, String.toList_append]
  rfl

theorem memberText_toList (qualified text : String) : (memberText qualified text).toList =
    '<' :: (qualified.toList ++ ':' :: ' ' :: ((quoted text).toList ++ ['>'])) := by
  have hmember : memberText qualified text =
    "<" ++ qualified ++ ": " ++ quoted text ++ ">" := rfl
  rw [hmember, String.toList_append, String.toList_append, String.toList_append,
    String.toList_append]
  simp

/-- The shown items of a tuple behind one of them, and the bracket that closes it. -/
def itemsRest (items : List Value) : List Char :=
  listedRest ((spellings items).map String.toList) ++ [')']

/-- What stands behind the first shown item of a tuple: a comma even if it is the only one. -/
def behindFirst : List Value → List Char
  | [] => [',', ')']
  | rest => itemsRest rest

/-- What stands behind the opening bracket of a shown tuple. -/
def tupleRest : List Value → List Char
  | [] => [')']
  | v :: rest => v.spelling.toList ++ behindFirst rest

theorem tuple_toList (items : List Value) :
    (Value.tuple items).spelling.toList = '(' :: tupleRest items := by
  match items with
  | [] => rfl
  | [v] =>
    have hspelling : (Value.tuple [v]).spelling = "(" ++ v.spelling ++ ",)" := rfl
    rw [hspelling, String.toList_append, String.toList_append]
    rfl
  | v :: w :: rest =>
    have hspelling : (Value.tuple (v :: w :: rest)).spelling =
      "(" ++ ", ".intercalate (v.spelling :: spellings (w :: rest)) ++ ")" := rfl
    rw [hspelling, String.toList_append, String.toList_append, toList_listed, List.append_assoc,
      List.append_assoc]
    rfl

/-- **The first character of a shown value tells its sort.** -/
theorem spelling_head {v : Value} (h : v.isElementary = true) :
    ∃ c cs, v.spelling.toList = c :: cs ∧ markOf c = v.mark := by
  cases v with
  | null => exact ⟨'N', ['o', 'n', 'e'], rfl, rfl⟩
  | bool b => cases b <;> exact ⟨_, _, rfl, rfl⟩
  | int n => exact ofInt_head n
  | float x object => exact float_head x
  | decimal d object => exact ⟨'D', _, decimal_toList d object, rfl⟩
  | str s =>
    refine ⟨_, _, quoted_toList s, ?_⟩
    rcases quoteFor_cases s.toList with hquote | hquote <;> rw [hquote] <;> rfl
  | timestamp t => exact ⟨'d', _, t.display_toList, rfl⟩
  | date d => exact ⟨'d', _, d.display_toList, rfl⟩
  | uuid u => exact ⟨'U', _, uuid_toList u, rfl⟩
  | tuple items => exact ⟨'(', _, tuple_toList items, rfl⟩
  | operator op => exact ⟨'<', _, memberText_toList _ _, rfl⟩
  | connector c => exact ⟨'<', _, memberText_toList _ _, rfl⟩
  | direction d => exact ⟨'<', _, memberText_toList _ _, rfl⟩
  | bytes | list | set | dict | condition | sortKey => cases h

section

variable {v w : Value} {r s : List Char}

theorem mark_eq (hv : v.isElementary = true) (hw : w.isElementary = true)
    (h : v.spelling.toList ++ r = w.spelling.toList ++ s) : v.mark = w.mark := by
  obtain ⟨c, cs, hvc, hvm⟩ := spelling_head hv
  obtain ⟨d, ds, hwd, hwm⟩ := spelling_head hw
  rw [hvc, hwd] at h
  rw [← hvm, ← hwm, (List.cons.inj h).1]

/-! ## Numbers -/

/-- Whether the first character behind a shown value ends it. -/
def Ends (r : List Char) : Prop :=
  ∃ c rest, r = c :: rest ∧ ¬IsInner c

theorem append_ends_injective {t u : List Char} (ht : ∀ c ∈ t, IsInner c)
    (hu : ∀ c ∈ u, IsInner c) (hr : Ends r) (hs : Ends s) (h : t ++ r = u ++ s) :
    t = u ∧ r = s := by
  obtain ⟨a, r', rfl, ha⟩ := hr
  obtain ⟨b, s', rfl, hb⟩ := hs
  obtain ⟨htu, rfl, hrs⟩ := append_span_injective ha hb ht hu h
  exact ⟨htu, by rw [hrs]⟩

theorem number_inner (hv : v.mark = '0') : ∀ c ∈ v.spelling.toList, IsInner c := by
  cases v with
  | int n => exact fun c hc => isInner_of_mem_ofInt hc
  | float x object => exact fun c hc => Binary64.isInner_of_mem_text hc
  | _ => simp [mark] at hv

/-- Numbers that are shown alike are the same number, of the same type, though not always the same
object. -/
theorem number_injective (hv : v.mark = '0') (hw : w.mark = '0')
    (h : v.spelling.toList = w.spelling.toList) : v.storedData = w.storedData := by
  cases v with
  | int m =>
    cases w with
    | int n => rw [Json.ofInt_injective h]
    | float y => exact absurd h (Binary64.ofInt_ne_textWith Binary64.isApart_plainNames m y)
    | _ => simp [mark] at hw
  | float x object =>
    cases w with
    | int n => exact absurd h.symm (Binary64.ofInt_ne_textWith Binary64.isApart_plainNames n x)
    | float y other =>
      obtain rfl := Binary64.textWith_injective Binary64.isApart_plainNames h
      rfl
    | _ => simp [mark] at hw
  | _ => simp [mark] at hv

/-! ## Members of vocabularies -/

/-- The member of a vocabulary that a text belongs to. -/
def memberOf (text : String) : Option Value :=
  ((Operator.ofText? text).map .operator).or
    (((Connector.ofText? text).map .connector).or ((Direction.ofText? text).map .direction))

/-- How the members of the vocabularies are shown, and that their texts tell them apart. -/
theorem member_shown (hv : v.isAtom = true) (hmark : v.mark = '<') : ∃ qualified text : String,
    v.spelling.toList = '<' :: (qualified.toList ++ ':' :: ' ' :: ((quoted text).toList ++ ['>'])) ∧
    ':' ∉ qualified.toList ∧ memberOf text = some v := by
  cases v with
  | operator op =>
    refine ⟨op.qualified, op.text, memberText_toList _ _, by cases op <;> decide, ?_⟩
    rw [memberOf, Operator.ofText?_text]
    rfl
  | connector c =>
    refine ⟨c.qualified, c.text, memberText_toList _ _, by cases c <;> decide, ?_⟩
    cases c <;> rfl
  | direction d =>
    refine ⟨d.qualified, d.text, memberText_toList _ _, by cases d <;> decide, ?_⟩
    cases d <;> rfl
  | bytes | list | tuple | set | dict | condition | sortKey => cases hv
  | _ => simp [mark] at hmark

theorem member_append_injective (hv : v.isAtom = true) (hmark : v.mark = '<')
    (hw : w.isAtom = true) (hmark' : w.mark = '<')
    (h : v.spelling.toList ++ r = w.spelling.toList ++ s) : v = w ∧ r = s := by
  obtain ⟨q, t, hshown, hq, ht⟩ := member_shown hv hmark
  obtain ⟨q', t', hshown', hq', ht'⟩ := member_shown hw hmark'
  rw [hshown, hshown'] at h
  simp only [List.cons_append, List.append_assoc, List.cons.injEq, true_and] at h
  obtain ⟨-, hrest⟩ := append_mark_injective hq hq' h
  obtain ⟨rfl, hend⟩ := quoted_append_injective (List.cons.inj hrest).2
  exact ⟨Option.some.inj (ht.symm.trans ht'), (List.cons.inj hend).2⟩

/-! ## Atoms -/

/-- What is shown as a date goes on differently from what is shown as a timestamp. -/
theorem date_ne_timestamp (d : Date) (t : Timestamp) :
    d.display.toList ++ r ≠ t.display.toList ++ s := by
  have hdate : "datetime.date(".toList = "datetime.date".toList ++ ['('] := rfl
  have htime : "datetime.datetime(".toList = "datetime.date".toList ++ 't' :: "ime(".toList := rfl
  intro h
  rw [Date.display_toList, Timestamp.display_toList, hdate, htime] at h
  simp only [List.append_assoc] at h
  exact absurd (List.cons.inj (List.append_cancel_left h)).1 (by decide)

theorem time_append_injective (hv : v.mark = 'd') (hw : w.mark = 'd')
    (h : v.spelling.toList ++ r = w.spelling.toList ++ s) : v = w ∧ r = s := by
  cases v with
  | timestamp t =>
    cases w with
    | timestamp u =>
      obtain ⟨rfl, hrest⟩ := Timestamp.display_append_injective h
      exact ⟨rfl, hrest⟩
    | date d => exact absurd h.symm (date_ne_timestamp d t)
    | _ => simp [mark] at hw
  | date d =>
    cases w with
    | timestamp t => exact absurd h (date_ne_timestamp d t)
    | date e =>
      obtain ⟨rfl, hrest⟩ := Date.display_append_injective h
      exact ⟨rfl, hrest⟩
    | _ => simp [mark] at hw
  | _ => simp [mark] at hv

theorem bool_append_injective {b c : Bool}
    (h : (Value.bool b).spelling.toList ++ r = (Value.bool c).spelling.toList ++ s) :
    b = c ∧ r = s := by
  cases b <;> cases c
  · exact ⟨rfl, List.append_cancel_left h⟩
  · exact absurd (List.cons.inj h).1 (by decide)
  · exact absurd (List.cons.inj h).1 (by decide)
  · exact ⟨rfl, List.append_cancel_left h⟩

/-- A text in single quotes and a bracket behind it, where a name is put before both. -/
theorem wrapped_append_injective {first : Char} {name t u : List Char} (ht : '\'' ∉ t)
    (hu : '\'' ∉ u) (h : first :: (name ++ t ++ '\'' :: [')']) ++ r =
      first :: (name ++ u ++ '\'' :: [')']) ++ s) : t = u ∧ r = s := by
  simp only [List.cons_append, List.append_assoc, List.nil_append, List.cons.injEq, true_and] at h
  obtain ⟨htu, hrest⟩ := append_mark_injective ht hu (List.append_cancel_left h)
  exact ⟨htu, (List.cons.inj hrest).2⟩

/-- An atom that is shown like an elementary value is stored like it. -/
theorem atom_append_injective (hv : v.isAtom = true) (hw : w.isElementary = true) (hr : Ends r)
    (hs : Ends s) (h : v.spelling.toList ++ r = w.spelling.toList ++ s) :
    v.storedData = w.storedData ∧ r = s := by
  have hv' : v.isElementary = true := by
    cases v with
    | tuple => cases hv
    | _ => exact hv
  have hmark := mark_eq hv' hw h
  have hnumber : v.mark = '0' → v.storedData = w.storedData ∧ r = s := by
    intro hzero
    obtain ⟨htext, hrest⟩ := append_ends_injective (number_inner hzero)
      (number_inner (hmark ▸ hzero)) hr hs h
    exact ⟨number_injective hzero (hmark ▸ hzero) htext, hrest⟩
  have htime : v.mark = 'd' → v.storedData = w.storedData ∧ r = s := by
    intro hletter
    obtain ⟨rfl, hrest⟩ := time_append_injective hletter (hmark ▸ hletter) h
    exact ⟨rfl, hrest⟩
  have hmember : v.mark = '<' → v.storedData = w.storedData ∧ r = s := by
    intro hbracket
    have hw' : w.isAtom = true := by
      cases w with
      | tuple =>
        rw [hbracket] at hmark
        simp [mark] at hmark
      | _ => exact hw
    obtain ⟨rfl, hrest⟩ := member_append_injective hv hbracket hw' (hmark ▸ hbracket) h
    exact ⟨rfl, hrest⟩
  cases v with
  | null =>
    cases w with
    | null => exact ⟨rfl, List.append_cancel_left h⟩
    | _ => simp [mark] at hmark
  | bool b =>
    cases w with
    | bool c =>
      obtain ⟨rfl, hrest⟩ := bool_append_injective h
      exact ⟨rfl, hrest⟩
    | _ => simp [mark] at hmark
  | decimal d object =>
    cases w with
    | decimal e other =>
      rw [decimal_toList, decimal_toList] at h
      obtain ⟨htext, hrest⟩ :=
        wrapped_append_injective d.quote_not_mem_text e.quote_not_mem_text h
      obtain rfl := Decimal.text_injective (String.toList_injective htext)
      exact ⟨storedData_decimal d object other, hrest⟩
    | _ => simp [mark] at hmark
  | str t =>
    cases w with
    | str u =>
      obtain ⟨rfl, hrest⟩ := quoted_append_injective h
      exact ⟨rfl, hrest⟩
    | _ => simp [mark] at hmark
  | uuid u =>
    cases w with
    | uuid x =>
      rw [uuid_toList, uuid_toList] at h
      obtain ⟨htext, hrest⟩ :=
        wrapped_append_injective u.quote_not_mem_text x.quote_not_mem_text h
      exact ⟨by rw [storedData, storedData, store, store, String.toList_injective htext], hrest⟩
    | _ => simp [mark] at hmark
  | int | float => exact hnumber rfl
  | timestamp | date => exact htime rfl
  | operator | connector | direction => exact hmember rfl
  | bytes | list | tuple | set | dict | condition | sortKey => cases hv

/-! ## Tuples -/

theorem itemsRest_cons (v : Value) (rest : List Value) :
    itemsRest (v :: rest) = ',' :: ' ' :: (v.spelling.toList ++ itemsRest rest) := by
  simp [itemsRest, listedRest, spellings]

theorem itemsRest_ends (items : List Value) (r : List Char) : Ends (itemsRest items ++ r) := by
  cases items with
  | nil => exact ⟨')', r, rfl, by decide⟩
  | cons v rest =>
    rw [itemsRest_cons]
    exact ⟨',', _, rfl, by decide⟩

theorem behindFirst_ends (items : List Value) (r : List Char) : Ends (behindFirst items ++ r) := by
  cases items with
  | nil => exact ⟨',', _, rfl, by decide⟩
  | cons v rest => exact itemsRest_ends (v :: rest) r

/-- A comma and a bracket behind the first item tell that there are no others. -/
theorem itemsRest_of_behindFirst {vs ws : List Value}
    (h : behindFirst vs ++ r = behindFirst ws ++ s) : itemsRest vs ++ r = itemsRest ws ++ s := by
  cases vs with
  | nil =>
    cases ws with
    | nil => exact congrArg (')' :: ·) (List.append_cancel_left h)
    | cons w ws =>
      have h' : ',' :: ')' :: r = itemsRest (w :: ws) ++ s := h
      rw [itemsRest_cons] at h'
      exact absurd (List.cons.inj (List.cons.inj h').2).1 (by decide)
  | cons v vs =>
    cases ws with
    | nil =>
      have h' : itemsRest (v :: vs) ++ r = ',' :: ')' :: s := h
      rw [itemsRest_cons] at h'
      exact absurd (List.cons.inj (List.cons.inj h').2).1 (by decide)
    | cons w ws => exact h

/-- No shown value begins like the end of a tuple. -/
theorem bracket_ne_spelling (hv : v.isElementary = true) : ')' :: r ≠ v.spelling.toList ++ s := by
  intro h
  obtain ⟨c, cs, hshown, hmark⟩ := spelling_head hv
  rw [hshown, List.cons_append] at h
  rw [← (List.cons.inj h).1] at hmark
  cases v <;> simp [mark, markOf] at hmark

end

-- The recursion is on the first value; the hypotheses are introduced case by case, since patterns
-- for them would make the texts of all values be evaluated.
mutual

/-- **What is shown determines the stored data**: a shown elementary value, with something behind it
that ends it, determines the data that the value is stored as and what stands behind it. -/
theorem spelling_append_injective : ∀ {v w : Value} {r s : List Char},
    v.isElementary = true → w.isElementary = true → Ends r → Ends s →
    v.spelling.toList ++ r = w.spelling.toList ++ s → v.storedData = w.storedData ∧ r = s
  | .tuple vs, w, r, s => by
    intro hv hw _ _ h
    have hmark := mark_eq hv hw h
    cases w with
    | tuple ws =>
      rw [tuple_toList, tuple_toList] at h
      obtain ⟨hstored, hrest⟩ := tupleRest_injective hv hw (List.cons.inj h).2
      exact ⟨by rw [storedData_tuple, storedData_tuple, hstored], hrest⟩
    | _ => simp [mark] at hmark
  | .null, _, _, _ | .bool _, _, _, _ | .int _, _, _, _ | .float .., _, _, _ | .decimal .., _, _, _
  | .str _, _, _, _ | .timestamp _, _, _, _ | .date _, _, _, _ | .uuid _, _, _, _
  | .operator _, _, _, _ | .connector _, _, _, _ | .direction _, _, _, _ =>
    fun _ hw hr hs h => atom_append_injective rfl hw hr hs h
  | .bytes _, _, _, _ | .list _, _, _, _ | .set .., _, _, _ | .dict _, _, _, _
  | .condition .., _, _, _ | .sortKey .., _, _, _ => nofun

theorem tupleRest_injective : ∀ {vs ws : List Value} {r s : List Char},
    areElementary vs = true → areElementary ws = true →
    tupleRest vs ++ r = tupleRest ws ++ s → storedItems vs = storedItems ws ∧ r = s
  | [], ws, r, s => by
    intro _ hw h
    cases ws with
    | nil => exact ⟨rfl, (List.cons.inj h).2⟩
    | cons w ws =>
      rw [areElementary, Bool.and_eq_true] at hw
      rw [tupleRest, tupleRest, List.append_assoc] at h
      exact absurd h (bracket_ne_spelling hw.1)
  | v :: vs, ws, r, s => by
    intro hv hw h
    rw [areElementary, Bool.and_eq_true] at hv
    cases ws with
    | nil =>
      rw [tupleRest, tupleRest, List.append_assoc] at h
      exact absurd h.symm (bracket_ne_spelling hv.1)
    | cons w ws =>
      rw [areElementary, Bool.and_eq_true] at hw
      rw [tupleRest, tupleRest, List.append_assoc, List.append_assoc] at h
      obtain ⟨hfirst, hbehind⟩ := spelling_append_injective hv.1 hw.1 (behindFirst_ends vs r)
        (behindFirst_ends ws s) h
      obtain ⟨hrest, hrs⟩ := itemsRest_injective hv.2 hw.2 (itemsRest_of_behindFirst hbehind)
      exact ⟨by rw [storedItems_cons, storedItems_cons, hfirst, hrest], hrs⟩

theorem itemsRest_injective : ∀ {vs ws : List Value} {r s : List Char},
    areElementary vs = true → areElementary ws = true →
    itemsRest vs ++ r = itemsRest ws ++ s → storedItems vs = storedItems ws ∧ r = s
  | [], ws, r, s => by
    intro _ _ h
    cases ws with
    | nil => exact ⟨rfl, (List.cons.inj h).2⟩
    | cons w ws =>
      rw [itemsRest_cons] at h
      exact absurd (List.cons.inj h).1 (by decide)
  | v :: vs, ws, r, s => by
    intro hv hw h
    rw [areElementary, Bool.and_eq_true] at hv
    cases ws with
    | nil =>
      rw [itemsRest_cons] at h
      exact absurd (List.cons.inj h).1 (by decide)
    | cons w ws =>
      rw [areElementary, Bool.and_eq_true] at hw
      rw [itemsRest_cons, itemsRest_cons] at h
      simp only [List.cons_append, List.append_assoc, List.cons.injEq, true_and] at h
      obtain ⟨hfirst, hrest⟩ := spelling_append_injective hv.1 hw.1 (itemsRest_ends vs r)
        (itemsRest_ends ws s) h
      obtain ⟨hstored, hrs⟩ := itemsRest_injective hv.2 hw.2 hrest
      exact ⟨by rw [storedItems_cons, storedItems_cons, hfirst, hstored], hrs⟩

end

/-- **Elementary values that are shown alike are stored as the same data.** -/
theorem storedData_eq_of_spelling_eq {v w : Value} (hv : v.isElementary = true)
    (hw : w.isElementary = true) (h : v.spelling = w.spelling) : v.storedData = w.storedData := by
  have hend : Ends [')'] := ⟨')', [], rfl, by decide⟩
  exact (spelling_append_injective hv hw hend hend (by rw [h])).1

end Value

end Docstore
