import Docstore.Value.CanonicalKey
import Docstore.Proofs.Number.ShortestText

/-!
# The JSON texts of strings and numbers

Strings are read back character by character, which shows where the text of a string ends.  The
texts of numbers are told apart by their signs, by their points and exponents, and by the numbers
that their digits stand for.

* `string_injective` — the text of a string, with anything behind it, determines the string and what
  is behind it.
* `ofInt_injective`, `Binary64.textWith_injective` — the texts of numbers determine them, whatever
  names stand for those without digits; all values that are not numbers are one.
* `isWritable_iff` — the integers that are written are those below a power of ten.
* `Binary64.ofInt_ne_textWith` — no floating-point number is written like an integer.
-/

namespace Docstore

namespace Json

/-! ## Strings -/

/-- The value of a hexadecimal digit in small letters. -/
def hexValue (c : Char) : Nat :=
  if c.isDigit then c.toNat - '0'.toNat else c.toNat - 'a'.toNat + 10

/-- The first character of the inside of a string, and what follows. -/
def unescape : List Char → Option (Char × List Char)
  | '\\' :: 'u' :: _ :: _ :: high :: low :: rest =>
    some (Char.ofNat (16 * hexValue high + hexValue low), rest)
  | '\\' :: 'n' :: rest => some ('\n', rest)
  | '\\' :: 'r' :: rest => some ('\r', rest)
  | '\\' :: 't' :: rest => some ('\t', rest)
  | '\\' :: 'b' :: rest => some ('\x08', rest)
  | '\\' :: 'f' :: rest => some ('\x0c', rest)
  | '\\' :: c :: rest => some (c, rest)
  | c :: rest => some (c, rest)
  | [] => none

theorem hex_control : ∀ n < 32, ∃ high low, Text.hex 4 n = ['0', '0', high, low] ∧
    16 * hexValue high + hexValue low = n := by
  intro n hn
  refine ⟨if n < 16 then '0' else '1', Nat.digitChar (n % 16), ?_, ?_⟩
  · revert n; decide
  · revert n; decide

theorem unescape_escaped (c : Char) (rest : List Char) :
    unescape (escaped c ++ rest) = some (c, rest) := by
  unfold escaped
  split
  · subst_vars; rfl
  split
  · subst_vars; rfl
  split
  · subst_vars; rfl
  split
  · subst_vars; rfl
  split
  · subst_vars; rfl
  split
  · subst_vars; rfl
  split
  · subst_vars; rfl
  split
  · rename_i h
    obtain ⟨high, low, hhex, hvalue⟩ := hex_control c.toNat h
    rw [hhex]
    simp only [List.cons_append, List.nil_append, unescape, hvalue, Char.ofNat_toNat]
  · rename_i hslash _ _ _ _ _ _
    simp only [List.cons_append, List.nil_append]
    rw [unescape.eq_def]
    split <;> simp_all

theorem escaped_injective {c d : Char} {r s : List Char}
    (h : escaped c ++ r = escaped d ++ s) : c = d ∧ r = s := by
  have hc := unescape_escaped c r
  rw [h, unescape_escaped] at hc
  simp only [Option.some.injEq, Prod.mk.injEq] at hc
  exact ⟨hc.1.symm, hc.2.symm⟩

/-- No character of a string looks like the quote that ends it. -/
theorem escaped_ne_quote (c : Char) (r s : List Char) : escaped c ++ r ≠ '"' :: s := by
  intro h
  have hread := unescape_escaped c r
  have hquote : unescape ('"' :: s) = some ('"', s) := rfl
  rw [h, hquote, Option.some.injEq, Prod.mk.injEq] at hread
  rw [← hread.1] at h
  simp [escaped] at h

theorem escaped_flatMap_injective : ∀ {cs ds : List Char} {r s : List Char},
    cs.flatMap escaped ++ '"' :: r = ds.flatMap escaped ++ '"' :: s → cs = ds ∧ r = s
  | [], [], _, _, h => ⟨rfl, by simpa using h⟩
  | [], d :: ds, _, _, h => by
    rw [List.flatMap_cons, List.append_assoc] at h
    exact absurd h.symm (escaped_ne_quote d _ _)
  | c :: cs, [], _, _, h => by
    rw [List.flatMap_cons, List.append_assoc] at h
    exact absurd h (escaped_ne_quote c _ _)
  | c :: cs, d :: ds, _, _, h => by
    rw [List.flatMap_cons, List.flatMap_cons, List.append_assoc, List.append_assoc] at h
    obtain ⟨rfl, hrest⟩ := escaped_injective h
    obtain ⟨rfl, hr⟩ := escaped_flatMap_injective hrest
    exact ⟨rfl, hr⟩

/-- A string ends where its reader stops. -/
theorem string_injective {cs ds r s : List Char} (h : string cs ++ r = string ds ++ s) :
    cs = ds ∧ r = s := by
  unfold string at h
  simp only [List.cons_append, List.append_assoc, List.nil_append, List.cons.injEq, true_and] at h
  exact escaped_flatMap_injective h

/-! ## Numbers -/

theorem isWritable_iff {n : Int} : Text.isWritable n = true ↔ n.natAbs < 10 ^ Text.maxDigits := by
  unfold Text.isWritable
  rw [decide_eq_true_eq]
  exact Nat.length_toDigits_le_iff (by decide) (by decide)

/-- The least positive integer that is not written. -/
theorem isWritable_bound : Text.isWritable (10 ^ Text.maxDigits) = false := by
  rw [Bool.eq_false_iff]
  intro h
  have hlt := isWritable_iff.mp h
  have hten : (10 : Int).natAbs = 10 := rfl
  rw [Int.natAbs_pow, hten] at hlt
  exact Nat.lt_irrefl _ hlt

theorem ofNat_toList (n : Nat) : (Text.ofNat n).toList = Nat.toDigits 10 n := by
  simp [Text.ofNat]

theorem toDigits_injective {m n : Nat} (h : Nat.toDigits 10 m = Nat.toDigits 10 n) : m = n := by
  have hm : Nat.ofDigitChars 10 (Nat.toDigits 10 m) 0 = m := Nat.ofDigitChars_ten_toDigits
  rw [h, Nat.ofDigitChars_ten_toDigits] at hm
  exact hm.symm

theorem toDigits_cons (n : Nat) : ∃ d ds, Nat.toDigits 10 n = d :: ds ∧ d.isDigit = true := by
  have hall := Binary64.allDigits_toDigits n
  cases hds : Nat.toDigits 10 n with
  | nil => exact absurd hds Nat.toDigits_ne_nil
  | cons d ds => exact ⟨d, ds, rfl, hall d (by rw [hds]; simp)⟩

/-- The sign in front of a number tells negative numbers apart from those that start with none. -/
theorem signed_injective {cs ds : List Char} {b c : Bool}
    (hcs : ∃ d rest, cs = d :: rest ∧ d ≠ '-') (hds : ∃ d rest, ds = d :: rest ∧ d ≠ '-')
    (h : (if b then '-' :: cs else cs) = if c then '-' :: ds else ds) : b = c ∧ cs = ds := by
  obtain ⟨d, rest, rfl, hd⟩ := hcs
  obtain ⟨e, rest', rfl, he⟩ := hds
  cases b <;> cases c
  · exact ⟨rfl, by simpa using h⟩
  · simp only [Bool.false_eq_true, if_false, if_true, List.cons.injEq] at h
    exact absurd h.1 hd
  · simp only [Bool.false_eq_true, if_false, if_true, List.cons.injEq] at h
    exact absurd h.1.symm he
  · exact ⟨rfl, by simpa using h⟩

theorem ne_minus_of_isDigit {c : Char} (h : c.isDigit = true) : c ≠ '-' := by
  rintro rfl
  cases h

theorem unsigned_toDigits (n : Nat) :
    ∃ d ds, Nat.toDigits 10 n = d :: ds ∧ d ≠ '-' := by
  obtain ⟨d, ds, hds, hd⟩ := toDigits_cons n
  exact ⟨d, ds, hds, ne_minus_of_isDigit hd⟩

theorem ofInt_toList (n : Int) : (Text.ofInt n).toList =
    if decide (n < 0) then '-' :: Nat.toDigits 10 n.natAbs else Nat.toDigits 10 n.natAbs := by
  unfold Text.ofInt
  by_cases h : n < 0 <;> simp [h, ofNat_toList]

theorem ofInt_injective {m n : Int} (h : (Text.ofInt m).toList = (Text.ofInt n).toList) :
    m = n := by
  rw [ofInt_toList, ofInt_toList] at h
  obtain ⟨hsign, hdigits⟩ := signed_injective (unsigned_toDigits _) (unsigned_toDigits _) h
  have habs := toDigits_injective hdigits
  rw [decide_eq_decide] at hsign
  omega

end Json

namespace Binary64

variable {names : Names} {x y : Binary64}

/-- Names that no number with digits is taken for: neither starts like one, and they differ. -/
structure Names.IsApart (names : Names) : Prop where
  nan : ∃ c cs, names.nan.toList = c :: cs ∧ c.isDigit = false ∧ c ≠ '-'
  infinity : ∃ c cs, names.infinity.toList = c :: cs ∧ c.isDigit = false ∧ c ≠ '-'
  ne : names.nan.toList ≠ names.infinity.toList

theorem isApart_plainNames : plainNames.IsApart :=
  ⟨⟨'n', _, rfl, rfl, by decide⟩, ⟨'i', _, rfl, rfl, by decide⟩, by decide⟩

theorem isApart_names : Json.names.IsApart :=
  ⟨⟨'N', _, rfl, rfl, by decide⟩, ⟨'I', _, rfl, rfl, by decide⟩, by decide⟩

def isNegative : Binary64 → Bool
  | .nan => false
  | .infinity negative | .finite negative _ _ _ => negative

/-- The text of a number without its sign. -/
def unsigned (names : Names) : Binary64 → List Char
  | .nan => names.nan.toList
  | .infinity _ => names.infinity.toList
  | .finite _ mantissa exponent _ => magnitudeText mantissa exponent

theorem textWith_toList (names : Names) (x : Binary64) : (x.textWith names).toList =
    if x.isNegative then '-' :: x.unsigned names else x.unsigned names := by
  cases x with
  | nan => rfl
  | infinity negative => cases negative <;> simp [textWith, isNegative, unsigned]
  | finite negative m e hc => cases negative <;> simp [textWith, isNegative, unsigned]

theorem unsigned_cons (h : names.IsApart) (x : Binary64) :
    ∃ c cs, x.unsigned names = c :: cs ∧ c ≠ '-' := by
  cases x with
  | nan =>
    obtain ⟨c, cs, hcs, -, hc⟩ := h.nan
    exact ⟨c, cs, hcs, hc⟩
  | infinity negative =>
    obtain ⟨c, cs, hcs, -, hc⟩ := h.infinity
    exact ⟨c, cs, hcs, hc⟩
  | finite negative m e hm =>
    obtain ⟨d, ds, hds, hd⟩ := (isMagnitude_magnitudeText e hm.fits).head
    exact ⟨d, ds, hds, Json.ne_minus_of_isDigit hd⟩

/-- No magnitude is written like a name. -/
theorem magnitudeText_ne_name {m : Nat} {e : Int} (hm : Canonical m e) {name : List Char}
    (hname : ∃ c cs, name = c :: cs ∧ c.isDigit = false ∧ c ≠ '-') : magnitudeText m e ≠ name := by
  obtain ⟨d, ds, hds, hd⟩ := (isMagnitude_magnitudeText e hm.fits).head
  obtain ⟨c, cs, rfl, hc, -⟩ := hname
  rw [hds]
  intro h
  rw [(List.cons.inj h).1, hc] at hd
  cases hd

/-- **The text of a floating-point number determines it**, whatever names stand for those without
digits. -/
theorem textWith_injective (h : names.IsApart)
    (htext : (x.textWith names).toList = (y.textWith names).toList) : x = y := by
  rw [textWith_toList, textWith_toList] at htext
  obtain ⟨hsign, hunsigned⟩ := Json.signed_injective (unsigned_cons h x) (unsigned_cons h y) htext
  cases x with
  | nan =>
    cases y with
    | nan => rfl
    | infinity => exact absurd hunsigned h.ne
    | finite c n f hn => exact absurd hunsigned.symm (magnitudeText_ne_name hn h.nan)
  | infinity =>
    cases y with
    | nan => exact absurd hunsigned.symm h.ne
    | infinity => rw [isNegative, isNegative] at hsign; rw [hsign]
    | finite c n f hn => exact absurd hunsigned.symm (magnitudeText_ne_name hn h.infinity)
  | finite b m e hm =>
    cases y with
    | nan => exact absurd hunsigned (magnitudeText_ne_name hm h.nan)
    | infinity => exact absurd hunsigned (magnitudeText_ne_name hm h.infinity)
    | finite c n f hn =>
      obtain ⟨rfl, rfl⟩ := magnitudeText_injective hm hn hunsigned
      rw [isNegative, isNegative] at hsign
      rw [hsign]

/-- **No floating-point number is written like an integer.** -/
theorem ofInt_ne_textWith (h : names.IsApart) (n : Int) (x : Binary64) :
    (Text.ofInt n).toList ≠ (x.textWith names).toList := by
  intro htext
  rw [Json.ofInt_toList, textWith_toList] at htext
  obtain ⟨-, hdigits⟩ :=
    Json.signed_injective (Json.unsigned_toDigits _) (unsigned_cons h x) htext
  have hall := allDigits_toDigits n.natAbs
  rw [hdigits] at hall
  cases x with
  | nan =>
    obtain ⟨c, cs, hcs, hc, -⟩ := h.nan
    exact absurd (hall c (by rw [unsigned, hcs]; exact List.mem_cons_self)) (by rw [hc]; decide)
  | infinity negative =>
    obtain ⟨c, cs, hcs, hc, -⟩ := h.infinity
    exact absurd (hall c (by rw [unsigned, hcs]; exact List.mem_cons_self)) (by rw [hc]; decide)
  | finite b m e hm =>
    -- a magnitude has a point or an exponent
    rcases (isMagnitude_magnitudeText e hm.fits).marked with hmark | hmark
    · exact absurd (hall _ hmark) (by decide)
    · exact absurd (hall _ hmark) (by decide)

end Binary64

namespace Json

theorem float_finite (negative : Bool) (m : Nat) (e : Int) (hc : Binary64.Canonical m e) :
    float (.finite negative m e hc) =
      if negative then '-' :: Binary64.magnitudeText m e else Binary64.magnitudeText m e :=
  Binary64.textWith_toList names (.finite negative m e hc)

/-- The names of numbers without digits, which start with no digit. -/
theorem float_names : float .nan = ['N', 'a', 'N'] ∧
    float (.infinity false) = ['I', 'n', 'f', 'i', 'n', 'i', 't', 'y'] ∧
    float (.infinity true) = ['-', 'I', 'n', 'f', 'i', 'n', 'i', 't', 'y'] := by
  refine ⟨?_, ?_, ?_⟩ <;> simp [float, Binary64.textWith, names]

theorem float_injective {x y : Binary64} (h : float x = float y) : x = y :=
  Binary64.textWith_injective Binary64.isApart_names h

theorem ofInt_ne_float (n : Int) (x : Binary64) : (Text.ofInt n).toList ≠ float x :=
  Binary64.ofInt_ne_textWith Binary64.isApart_names n x

end Json

end Docstore
