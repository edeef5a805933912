import Docstore.Proofs.Json.ScalarText

/-!
# JSON values and their canonical texts

A datum is a JSON value with integers and floating-point numbers kept apart.  The members of an
object come in the order of their names, so two objects with the same members are the same datum.

* `text_append_injective` — the text of a datum, with a delimiter or nothing behind it, determines
  the datum and what is behind it.
* `text_injective` — different data have different texts.
-/

namespace Docstore

/-- A JSON value. -/
inductive Datum where
  | null
  | bool (b : Bool)
  | int (n : Int)
  | float (x : Binary64)
  | string (s : String)
  | array (items : List Datum)
  /-- An object, with its members in the order of their names. -/
  | object (members : List (String × Datum))

namespace Datum

mutual

/-- The canonical text of a datum. -/
def text : Datum → List Char
  | .null => Json.null
  | .bool b => Json.bool b
  | .int n => (Text.ofInt n).toList
  | .float x => Json.float x
  | .string s => Json.string s.toList
  | .array items => '[' :: Json.commas (itemTexts items) ++ [']']
  | .object members => '\x7b' :: Json.commas (memberTexts members) ++ ['\x7d']

/-- The texts of the items of an array. -/
def itemTexts : List Datum → List (List Char)
  | [] => []
  | d :: rest => d.text :: itemTexts rest

/-- The texts of the members of an object. -/
def memberTexts : List (String × Datum) → List (List Char)
  | [] => []
  | (name, d) :: rest => (Json.string name.toList ++ ':' :: d.text) :: memberTexts rest

end

/-! ## Delimiters -/

/-- The characters of texts without quotes and brackets. -/
def IsPlain (c : Char) : Prop :=
  c ≠ ',' ∧ c ≠ ']' ∧ c ≠ '\x7d' ∧ c ≠ '"' ∧ c ≠ '[' ∧ c ≠ '\x7b'

instance (c : Char) : Decidable (IsPlain c) :=
  inferInstanceAs (Decidable (_ ∧ _))

theorem isPlain_of_isNumeralChar {c : Char} (h : Binary64.IsNumeralChar c) : IsPlain c := by
  unfold IsPlain
  rcases h with h | rfl | rfl | rfl | rfl
  · refine ⟨?_, ?_, ?_, ?_, ?_, ?_⟩ <;> (rintro rfl; revert h; decide)
  all_goals decide

theorem ofInt_isPlain (n : Int) : ∀ c ∈ (Text.ofInt n).toList, IsPlain c := by
  intro c hc
  have hall := (Binary64.allDigits_toDigits n.natAbs).isNumeralChar
  rw [Json.ofInt_toList] at hc
  split at hc
  · rcases List.mem_cons.mp hc with rfl | hc
    · decide
    · exact isPlain_of_isNumeralChar (hall c hc)
  · exact isPlain_of_isNumeralChar (hall c hc)

theorem float_isPlain (x : Binary64) : ∀ c ∈ Json.float x, IsPlain c := by
  obtain ⟨hnan, hplus, hminus⟩ := Json.float_names
  cases x with
  | nan => rw [hnan]; simp [IsPlain]
  | infinity b =>
    cases b
    · rw [hplus]; simp [IsPlain]
    · rw [hminus]; simp [IsPlain]
  | finite b m e hm =>
    intro c hc
    have hchars := (Binary64.isMagnitude_magnitudeText e hm.fits).chars
    rw [Json.float_finite] at hc
    split at hc
    · rcases List.mem_cons.mp hc with rfl | hc
      · decide
      · exact isPlain_of_isNumeralChar (hchars c hc)
    · exact isPlain_of_isNumeralChar (hchars c hc)

/-- What follows a datum inside others: nothing, or a comma or the end of an array or object. -/
def Follows (r : List Char) : Prop :=
  ∀ c rest, r = c :: rest → c = ',' ∨ c = ']' ∨ c = '\x7d'

theorem follows_nil : Follows [] := by
  intro c rest h
  cases h

theorem follows_cons {c : Char} (r : List Char) (h : c = ',' ∨ c = ']' ∨ c = '\x7d') :
    Follows (c :: r) := by
  intro c' rest h'
  cases h'
  exact h

/-- A text without delimiters ends where the first delimiter stands. -/
theorem plain_append_injective : ∀ {u v r s : List Char}, (∀ c ∈ u, IsPlain c) →
    (∀ c ∈ v, IsPlain c) → Follows r → Follows s → u ++ r = v ++ s → u = v ∧ r = s
  | [], [], _, _, _, _, _, _, h => ⟨rfl, h⟩
  | [], c :: v, r, s, _, hv, hr, _, h => by
    have hplain := hv c (by simp)
    unfold IsPlain at hplain
    rcases hr c (v ++ s) h with rfl | rfl | rfl <;> simp at hplain
  | c :: u, [], r, s, hu, _, _, hs, h => by
    have hplain := hu c (by simp)
    unfold IsPlain at hplain
    rcases hs c (u ++ r) h.symm with rfl | rfl | rfl <;> simp at hplain
  | c :: u, d :: v, r, s, hu, hv, hr, hs, h => by
    simp only [List.cons_append, List.cons.injEq] at h
    obtain ⟨rfl, hrest⟩ := h
    obtain ⟨rfl, hrs⟩ := plain_append_injective (fun x hx => hu x (by simp [hx]))
      (fun x hx => hv x (by simp [hx])) hr hs hrest
    exact ⟨rfl, hrs⟩

/-! ## Kinds -/

/-- The kinds of data that the first character of a text tells apart. -/
inductive Kind where
  | null
  | bool
  | number
  | string
  | array
  | object
deriving DecidableEq

/-- The kind of a datum. -/
def kind : Datum → Kind
  | .null => .null
  | .bool _ => .bool
  | .int _ | .float _ => .number
  | .string _ => .string
  | .array _ => .array
  | .object _ => .object

/-- The kind of the data whose texts start with a character. -/
def kindOf (c : Char) : Option Kind :=
  if c = 'n' then some .null
  else if c = 't' ∨ c = 'f' then some .bool
  else if c = '"' then some .string
  else if c = '[' then some .array
  else if c = '\x7b' then some .object
  else if c.isDigit ∨ c = '-' ∨ c = 'N' ∨ c = 'I' then some .number
  else none

theorem kindOf_digit {c : Char} (h : c.isDigit = true) : kindOf c = some .number := by
  have hne : c ≠ 'n' ∧ c ≠ 't' ∧ c ≠ 'f' ∧ c ≠ '"' ∧ c ≠ '[' ∧ c ≠ '\x7b' := by
    refine ⟨?_, ?_, ?_, ?_, ?_, ?_⟩ <;> (rintro rfl; revert h; decide)
  simp [kindOf, hne, h]

theorem kindOf_ofInt (n : Int) :
    ∃ c cs, (Text.ofInt n).toList = c :: cs ∧ kindOf c = some .number := by
  obtain ⟨d, ds, hds, hd⟩ := Json.toDigits_cons n.natAbs
  rw [Json.ofInt_toList, hds]
  split
  · exact ⟨'-', _, rfl, rfl⟩
  · exact ⟨d, _, rfl, kindOf_digit hd⟩

theorem kindOf_float (x : Binary64) :
    ∃ c cs, Json.float x = c :: cs ∧ kindOf c = some .number := by
  obtain ⟨hnan, hplus, hminus⟩ := Json.float_names
  cases x with
  | nan => exact ⟨'N', _, hnan, rfl⟩
  | infinity b =>
    cases b
    · exact ⟨'I', _, hplus, rfl⟩
    · exact ⟨'-', _, hminus, rfl⟩
  | finite b m e hm =>
    obtain ⟨d, ds, hds, hd⟩ := (Binary64.isMagnitude_magnitudeText e hm.fits).head
    rw [Json.float_finite, hds]
    split
    · exact ⟨'-', _, rfl, rfl⟩
    · exact ⟨d, _, rfl, kindOf_digit hd⟩

/-- The first character of a text tells the kind of the datum. -/
theorem text_cons (d : Datum) : ∃ c cs, d.text = c :: cs ∧ kindOf c = some d.kind := by
  cases d with
  | null => exact ⟨'n', _, rfl, rfl⟩
  | bool b =>
    cases b
    · exact ⟨'f', _, rfl, rfl⟩
    · exact ⟨'t', _, rfl, rfl⟩
  | int n => exact kindOf_ofInt n
  | float x => exact kindOf_float x
  | string s => exact ⟨'"', _, rfl, rfl⟩
  | array items => exact ⟨'[', _, rfl, rfl⟩
  | object members => exact ⟨'\x7b', _, rfl, rfl⟩

theorem kind_eq_of_append {d e : Datum} {r s : List Char} (h : d.text ++ r = e.text ++ s) :
    d.kind = e.kind := by
  obtain ⟨c, cs, hd, hc⟩ := text_cons d
  obtain ⟨c', cs', he, hc'⟩ := text_cons e
  rw [hd, he, List.cons_append, List.cons_append, List.cons.injEq] at h
  rw [h.1, hc'] at hc
  exact (Option.some.inj hc).symm

/-- The end of an array or an object starts no datum. -/
theorem text_append_ne (d : Datum) {c : Char} (hc : kindOf c = none) (r s : List Char) :
    d.text ++ r ≠ c :: s := by
  obtain ⟨c', cs, hd, hk⟩ := text_cons d
  rw [hd, List.cons_append]
  intro h
  rw [(List.cons.inj h).1, hc] at hk
  cases hk

/-! ## Injectivity -/

theorem commas_cons (t : List Char) (rest : List (List Char)) :
    Json.commas (t :: rest) = t ++ if rest.isEmpty then [] else ',' :: Json.commas rest := by
  cases rest <;> simp [Json.commas]

/-- What stands behind the first text of texts with commas. -/
theorem follows_tail (rest : List (List Char)) {c : Char} (r : List Char)
    (h : c = ']' ∨ c = '\x7d') :
    Follows ((if rest.isEmpty then [] else ',' :: Json.commas rest) ++ c :: r) := by
  split
  · exact follows_cons r (.inr h)
  · exact follows_cons _ (.inl rfl)

/-- What stands behind the first text determines the texts behind it, up to what follows them. -/
theorem commas_eq_of_tail {ts us : List (List Char)} {c : Char} {r s : List Char} (hc : c ≠ ',')
    (h : (if ts.isEmpty then [] else ',' :: Json.commas ts) ++ c :: r =
      (if us.isEmpty then [] else ',' :: Json.commas us) ++ c :: s) :
    Json.commas ts ++ c :: r = Json.commas us ++ c :: s := by
  cases ts with
  | nil =>
    cases us with
    | nil => exact h
    | cons u us => exact absurd (List.cons.inj h).1 hc
  | cons t ts =>
    cases us with
    | nil => exact absurd (List.cons.inj h).1.symm hc
    | cons u us => exact (List.cons.inj h).2

mutual

/-- **The text of a datum determines it**, and what stands behind it. -/
theorem text_append_injective : ∀ (d e : Datum) {r s : List Char}, Follows r → Follows s →
    d.text ++ r = e.text ++ s → d = e ∧ r = s
  | .null, e, r, s, _, _, h => by
    have hk := kind_eq_of_append h
    cases e <;> cases hk
    exact ⟨rfl, by simpa [text] using h⟩
  | .bool b, e, r, s, hr, hs, h => by
    have hk := kind_eq_of_append h
    cases e <;> cases hk
    rename_i c
    cases b <;> cases c <;> simp_all [text, Json.bool]
  | .int m, e, r, s, hr, hs, h => by
    have hk := kind_eq_of_append h
    -- integers and floating-point numbers are of one kind, so their texts have to be told apart
    cases e <;> cases hk
    · rename_i n
      simp only [text] at h
      obtain ⟨htext, hrest⟩ := plain_append_injective (ofInt_isPlain m) (ofInt_isPlain n) hr hs h
      exact ⟨by rw [Json.ofInt_injective htext], hrest⟩
    · rename_i x
      simp only [text] at h
      obtain ⟨htext, -⟩ := plain_append_injective (ofInt_isPlain m) (float_isPlain x) hr hs h
      exact absurd htext (Json.ofInt_ne_float m x)
  | .float x, e, r, s, hr, hs, h => by
    have hk := kind_eq_of_append h
    cases e <;> cases hk
    · rename_i n
      simp only [text] at h
      obtain ⟨htext, -⟩ := plain_append_injective (float_isPlain x) (ofInt_isPlain n) hr hs h
      exact absurd htext.symm (Json.ofInt_ne_float n x)
    · rename_i y
      simp only [text] at h
      obtain ⟨htext, hrest⟩ := plain_append_injective (float_isPlain x) (float_isPlain y) hr hs h
      exact ⟨by rw [Json.float_injective htext], hrest⟩
  | .string t, e, r, s, _, _, h => by
    have hk := kind_eq_of_append h
    cases e <;> cases hk
    simp only [text] at h
    obtain ⟨hchars, hrest⟩ := Json.string_injective h
    exact ⟨by rw [String.toList_injective hchars], hrest⟩
  | .array ds, e, r, s, _, _, h => by
    have hk := kind_eq_of_append h
    cases e <;> cases hk
    rename_i es
    simp only [text, List.cons_append, List.append_assoc, List.nil_append, List.cons.injEq,
      true_and] at h
    obtain ⟨rfl, hrest⟩ := items_append_injective ds es h
    exact ⟨rfl, hrest⟩
  | .object ds, e, r, s, _, _, h => by
    have hk := kind_eq_of_append h
    cases e <;> cases hk
    rename_i es
    simp only [text, List.cons_append, List.append_assoc, List.nil_append, List.cons.injEq,
      true_and] at h
    obtain ⟨rfl, hrest⟩ := members_append_injective ds es h
    exact ⟨rfl, hrest⟩

theorem items_append_injective : ∀ (ds es : List Datum) {r s : List Char},
    Json.commas (itemTexts ds) ++ ']' :: r = Json.commas (itemTexts es) ++ ']' :: s →
      ds = es ∧ r = s
  | [], [], r, s, h => ⟨rfl, by simpa [itemTexts, Json.commas] using h⟩
  | [], e :: es, r, s, h => by
    rw [itemTexts, itemTexts, commas_cons, List.append_assoc] at h
    exact absurd h.symm (text_append_ne e rfl _ _)
  | d :: ds, [], r, s, h => by
    rw [itemTexts, itemTexts, commas_cons, List.append_assoc] at h
    exact absurd h (text_append_ne d rfl _ _)
  | d :: ds, e :: es, r, s, h => by
    rw [itemTexts, itemTexts, commas_cons, commas_cons, List.append_assoc, List.append_assoc] at h
    obtain ⟨rfl, hrest⟩ := text_append_injective d e (follows_tail _ _ (.inl rfl))
      (follows_tail _ _ (.inl rfl)) h
    obtain ⟨rfl, hrs⟩ := items_append_injective ds es (commas_eq_of_tail (by decide) hrest)
    exact ⟨rfl, hrs⟩

theorem members_append_injective : ∀ (ds es : List (String × Datum)) {r s : List Char},
    Json.commas (memberTexts ds) ++ '\x7d' :: r = Json.commas (memberTexts es) ++ '\x7d' :: s →
      ds = es ∧ r = s
  | [], [], r, s, h => ⟨rfl, by simpa [memberTexts, Json.commas] using h⟩
  | [], (l, e) :: es, r, s, h => by
    rw [memberTexts, memberTexts, commas_cons] at h
    simp [Json.commas, Json.string] at h
  | (k, d) :: ds, [], r, s, h => by
    rw [memberTexts, memberTexts, commas_cons] at h
    simp [Json.commas, Json.string] at h
  | (k, d) :: ds, (l, e) :: es, r, s, h => by
    rw [memberTexts, memberTexts, commas_cons, commas_cons, List.append_assoc, List.append_assoc,
      List.append_assoc, List.append_assoc] at h
    obtain ⟨hname, hvalue⟩ := Json.string_injective h
    simp only [List.cons_append, List.cons.injEq, true_and] at hvalue
    obtain ⟨rfl, hrest⟩ := text_append_injective d e (follows_tail _ _ (.inr rfl))
      (follows_tail _ _ (.inr rfl)) hvalue
    obtain rfl := String.toList_injective hname
    obtain ⟨rfl, hrs⟩ := members_append_injective ds es (commas_eq_of_tail (by decide) hrest)
    exact ⟨rfl, hrs⟩

end

/-- **Different data have different texts.** -/
theorem text_injective {d e : Datum} (h : d.text = e.text) : d = e :=
  (text_append_injective d e follows_nil follows_nil (by rw [h])).1

end Datum

end Docstore
