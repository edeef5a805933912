import Docstore.Text.Numeral
import Docstore.Proofs.Json.ScalarText

/-!
# Numerals are read back

A numeral is read digit by digit, whatever digits it is written in.  Decimal numerals give the number
that they were written for, with zeros in front of them or without.

* `leadingDigits?_eq` — digits are read one by one, in any way of reading single digits.
* `readInt_toDigits` — a number is read back from its digits, unless it has too many of them.
* `allDigits_padded`, `length_padded`, `ofDigitChars_padded` — a padded number consists of as many
  digits as were asked for, and they stand for the number.
-/

namespace Docstore.Text

open Binary64 (AllDigits allDigits_toDigits allDigits_zeros)

variable {digit : Char → Option Nat} {value : Char → Nat} {ds : List Char} {width n : Nat}

/-! ## What is passed over -/

theorem dropWhile_eq_self {p : Char → Bool} {cs : List Char} (h : ∀ c ∈ cs, p c = false) :
    cs.dropWhile p = cs := by
  cases cs with
  | nil => rfl
  | cons c rest => rw [List.dropWhile_cons, h c List.mem_cons_self, if_neg Bool.false_ne_true]

/-- Nothing is taken off the ends of a text without characters that are passed over. -/
theorem dropWhile_ends_eq_self {p : Char → Bool} {cs : List Char} (h : ∀ c ∈ cs, p c = false) :
    ((cs.dropWhile p).reverse.dropWhile p).reverse = cs := by
  rw [dropWhile_eq_self h, dropWhile_eq_self fun c hc => h c (List.mem_reverse.mp hc),
    List.reverse_reverse]

/-! ## Digits -/

theorem ne_of_isDigit {c mark : Char} (h : c.isDigit = true) (hmark : mark.isDigit = false) :
    c ≠ mark := by
  rintro rfl
  rw [h] at hmark
  cases hmark

theorem decimalDigit?_of_isDigit {c : Char} (h : c.isDigit = true) :
    decimalDigit? c = some (c.toNat - '0'.toNat) := by
  have hbounds : 48 ≤ c.toNat ∧ c.toNat < 58 := by
    obtain ⟨hlow, hhigh⟩ := Char.isDigit_iff_toNat.mp h
    exact ⟨hlow, Nat.lt_succ_of_le hhigh⟩
  simp [decimalDigit?, digitZeros, hbounds]

/-- **Digits are read one by one**, and nothing follows them. -/
theorem leadingDigits?_eq (pending : Bool) (h : ∀ c ∈ ds, c ≠ '_' ∧ digit c = some (value c))
    (hpending : pending = true → ds ≠ []) :
    leadingDigits? digit pending ds = some (ds.map value, []) := by
  induction ds generalizing pending with
  | nil =>
    cases pending
    · rfl
    · exact absurd rfl (hpending rfl)
  | cons c ds ih =>
    obtain ⟨hgap, hdigit⟩ := h c List.mem_cons_self
    have hrest := ih false (fun d hd => h d (List.mem_cons_of_mem c hd)) (by simp)
    rw [leadingDigits?, if_neg hgap, hdigit]
    simp only [hrest]
    rfl

/-- A sign is split off a text that starts with none. -/
theorem splitSign_signed (negative : Bool) {c : Char} (hminus : c ≠ '-') (hplus : c ≠ '+')
    (cs : List Char) :
    splitSign (if negative then '-' :: c :: cs else c :: cs) = (negative, c :: cs) := by
  cases negative
  · rw [if_neg Bool.false_ne_true]
    unfold splitSign
    split
    · rename_i heq
      exact absurd (List.cons.inj heq).1 hminus
    · rename_i heq
      exact absurd (List.cons.inj heq).1 hplus
    · rfl
  · rfl

theorem ofDigits_map (ds : List Char) :
    ofDigits (ds.map fun c => c.toNat - '0'.toNat) = Nat.ofDigitChars 10 ds 0 := by
  unfold ofDigits Nat.ofDigitChars
  rw [List.foldl_map]

/-- A number is read back from its digits, unless it has too many of them. -/
theorem readInt_toDigits {n : Nat} (h : (Nat.toDigits 10 n).length ≤ maxDigits) :
    readInt decimalDigit? (Nat.toDigits 10 n) = .number n := by
  have hall : ∀ c ∈ Nat.toDigits 10 n, c ≠ '_' ∧ decimalDigit? c = some (c.toNat - '0'.toNat) :=
    fun c hc => ⟨bne_iff_ne.mp ((allDigits_toDigits n).ne (by decide) c hc),
      decimalDigit?_of_isDigit (allDigits_toDigits n c hc)⟩
  obtain ⟨d, ds, hds, hd⟩ := Json.toDigits_cons n
  have hsign : splitSign ((Nat.toDigits 10 n).dropWhile isBlank) = (false, Nat.toDigits 10 n) := by
    rw [dropWhile_eq_self fun c hc => isBlank_of_isDigit (allDigits_toDigits n c hc), hds]
    exact splitSign_signed false (ne_of_isDigit hd (by decide)) (ne_of_isDigit hd (by decide)) ds
  have hread := leadingDigits?_eq true hall (fun _ => Nat.toDigits_ne_nil)
  unfold readInt
  rw [hsign]
  simp only [hread, List.length_map, ofDigits_map, Nat.ofDigitChars_ten_toDigits]
  rw [if_neg (by omega)]
  rfl

/-! ## Numbers of a fixed width -/

theorem padded_toList (width n : Nat) : (padded width n).toList =
    List.replicate (width - (Nat.toDigits 10 n).length) '0' ++ Nat.toDigits 10 n :=
  String.toList_ofList

theorem allDigits_padded (width n : Nat) : AllDigits (padded width n).toList := by
  rw [padded_toList]
  exact (allDigits_zeros _).append (allDigits_toDigits n)

theorem length_padded (hpos : 0 < width) (h : n < 10 ^ width) :
    (padded width n).toList.length = width := by
  have hlength := (Nat.length_toDigits_le_iff (b := 10) (by decide) hpos).mpr h
  rw [padded_toList, List.length_append, List.length_replicate, Nat.sub_add_cancel hlength]

theorem ofDigitChars_padded (width n : Nat) : Nat.ofDigitChars 10 (padded width n).toList 0 = n := by
  have hzeros : ∀ k, Nat.ofDigitChars 10 (List.replicate k '0') 0 = 0 := by
    intro k
    induction k with
    | zero => rfl
    | succ k ih => exact ih
  rw [padded_toList, Nat.ofDigitChars_append, hzeros, Nat.ofDigitChars_ten_toDigits]

theorem padded_cons (width n : Nat) :
    ∃ c cs, (padded width n).toList = c :: cs ∧ c.isDigit = true := by
  have hall := allDigits_padded width n
  cases hcs : (padded width n).toList with
  | nil =>
    rw [padded_toList, List.append_eq_nil_iff] at hcs
    exact absurd hcs.2 Nat.toDigits_ne_nil
  | cons c cs => exact ⟨c, cs, rfl, hall c (hcs ▸ List.mem_cons_self)⟩

end Docstore.Text
