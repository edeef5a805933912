import Docstore.Proofs.Number.NumeralReading

/-!
# Decimal numbers are read back from their texts

Nothing in the text of a decimal number is passed over, so that all of it is read: the sign, and behind
it digits or a name.  A number is read back if its powers of ten can be represented, and whatever is
read from a text is such a number.

* `decimal_text_eq` — of the text of a number its sign is split off, and the rest is read.
* `decimal_text` — a decimal number in range is read back from its text.
* `inRange_of_decimal` — what is read from a text is in range.
* `decimal_of_decimal` — what is read is read back from its own text.
-/

namespace Docstore.Number

open Text (isBlank isBlank_of_isDigit splitSign splitSign_signed ofDigits_map
  dropWhile_ends_eq_self)
open Binary64 (AllDigits allDigits_toDigits)
open Decimal (isNegative unsigned magnitudeText magnitudeText_isWritten magnitudeText_cons mantissa
  powerText payloadText text_toList unsigned_cons)

variable {s : String} {ds : List Char} {d : Decimal} {negative : Bool}

/-- A decimal number whose powers of ten can be represented. -/
def InRange : Decimal → Prop
  | .finite _ coefficient exponent =>
    exponent + (Nat.toDigits 10 coefficient).length - 1 ≤ topPower ∧ bottomPower ≤ exponent
  | _ => True

/-! ## Characters -/

/-- The characters of decimal numbers. -/
def IsDecimalChar (c : Char) : Prop :=
  c.isDigit = true ∨ c ∈ "-+.EInfinitysNa".toList

/-- No character of a decimal number is passed over. -/
theorem IsDecimalChar.is_read {c : Char} (h : IsDecimalChar c) :
    isSeparator c = false ∧ (c != '_') = true := by
  rcases h with h | h
  · have hlow : 48 ≤ c.toNat := (Char.isDigit_iff_toNat.mp h).1
    refine ⟨?_, bne_iff_ne.mpr ?_⟩
    · have hbeyond : ¬c.toNat ≤ 0x1F := by omega
      simp [isSeparator, isBlank_of_isDigit h, hbeyond]
    · rintro rfl
      cases h
  · have hread : ("-+.EInfinitysNa".toList.all fun c => !isSeparator c && c != '_') = true := by
      decide
    simpa using List.all_eq_true.mp hread c h

theorem isDecimalChar_magnitudeText (coefficient : Nat) (exponent : Int) :
    ∀ c ∈ magnitudeText coefficient exponent, IsDecimalChar c := by
  obtain ⟨whole, fraction, power, hwritten, -, -⟩ := magnitudeText_isWritten coefficient exponent
  intro c hc
  rw [hwritten.text, List.mem_append] at hc
  rcases hc with hc | hc
  · unfold mantissa at hc
    split at hc
    · exact .inl (hwritten.whole_digits c hc)
    · rcases List.mem_append.mp hc with hc | hc
      · exact .inl (hwritten.whole_digits c hc)
      · rcases List.mem_cons.mp hc with rfl | hc
        · exact .inr (by decide)
        · exact .inl (hwritten.fraction_digits c hc)
  · unfold powerText at hc
    split at hc
    · cases hc
    · rcases List.mem_cons.mp hc with rfl | hc
      · exact .inr (by decide)
      rcases List.mem_cons.mp hc with rfl | hc
      · split <;> exact .inr (by decide)
      · exact .inl (allDigits_toDigits _ c hc)

theorem isDecimalChar_text (d : Decimal) : ∀ c ∈ d.text.toList, IsDecimalChar c := by
  have hunsigned : ∀ c ∈ d.unsigned, IsDecimalChar c := by
    have hpayload : ∀ payload, ∀ c ∈ payloadText payload, IsDecimalChar c := by
      intro payload c hc
      unfold payloadText at hc
      split at hc
      · cases hc
      · exact .inl (allDigits_toDigits _ c hc)
    have hname : ∀ name : List Char, (∀ c ∈ name, c ∈ "-+.EInfinitysNa".toList) → ∀ payload,
        ∀ c ∈ name ++ payloadText payload, IsDecimalChar c := by
      intro name hname payload c hc
      rcases List.mem_append.mp hc with hc | hc
      · exact .inr (hname c hc)
      · exact hpayload payload c hc
    cases d with
    | finite _ coefficient exponent => exact isDecimalChar_magnitudeText coefficient exponent
    | infinity _ =>
      have hinfinity : ∀ c ∈ ['I', 'n', 'f', 'i', 'n', 'i', 't', 'y'],
          c ∈ "-+.EInfinitysNa".toList := by simp
      exact fun c hc => .inr (hinfinity c hc)
    | nan _ signaling payload =>
      cases signaling
      · exact hname ['N', 'a', 'N'] (by simp) payload
      · exact hname ['s', 'N', 'a', 'N'] (by simp) payload
  intro c hc
  rw [text_toList] at hc
  split at hc
  · rcases List.mem_cons.mp hc with rfl | hc
    · exact .inr (by decide)
    · exact hunsigned c hc
  · exact hunsigned c hc

/-! ## Signs -/

theorem splitSign_text (d : Decimal) : splitSign d.text.toList = (d.isNegative, d.unsigned) := by
  obtain ⟨c, cs, hunsigned, hminus, hkind⟩ := unsigned_cons d
  have hplus : c ≠ '+' := by
    rintro rfl
    cases d with
    | finite => cases hkind
    | infinity => cases hkind
    | nan _ signaling _ => cases signaling <;> cases hkind
  rw [text_toList, hunsigned]
  exact splitSign_signed d.isNegative hminus hplus cs

/-- Of the text of a number its sign is split off, and the rest is read. -/
theorem decimal_text_eq (d : Decimal) :
    decimal d.text = unsignedDecimal d.isNegative d.unsigned := by
  have hread := fun c hc => (isDecimalChar_text d c hc).is_read
  have hbare := dropWhile_ends_eq_self fun c hc => (hread c hc).1
  have hall : d.text.toList.filter (· != '_') = d.text.toList :=
    List.filter_eq_self.mpr fun c hc => (hread c hc).2
  unfold decimal
  simp only [hbare, hall, splitSign_text]

/-! ## Digits and names -/

theorem toLower_of_isDigit {c : Char} (h : c.isDigit = true) : c.toLower = c := by
  have hhigh : c.toNat ≤ 57 := (Char.isDigit_iff_toNat.mp h).2
  refine dif_neg fun hupper => ?_
  have hlow : 65 ≤ c.toNat := hupper.1
  omega

theorem lowered_of_allDigits (h : AllDigits ds) : lowered ds = ds := by
  unfold lowered
  induction ds with
  | nil => rfl
  | cons c ds ih =>
    rw [List.map_cons, toLower_of_isDigit (h c List.mem_cons_self),
      ih fun d hd => h d (List.mem_cons_of_mem c hd)]

theorem carried_payloadText (signaling : Bool) (payload : Nat) :
    carried negative signaling (lowered (payloadText payload)) =
      .ok (.nan negative signaling payload) := by
  have hdigits : AllDigits (payloadText payload) := by
    unfold payloadText
    split
    · nofun
    · exact allDigits_toDigits payload
  have hvalue : Nat.ofDigitChars 10 (payloadText payload) 0 = payload := by
    unfold payloadText
    split
    · rename_i hzero
      exact hzero.symm
    · exact Nat.ofDigitChars_ten_toDigits
  rw [lowered_of_allDigits hdigits, carried]
  simp only [spanDigits_all hdigits, ofDigits_map, hvalue]

theorem endsDigits_powerText (power : Int) :
    EndsDigits (powerText power) ∧ (powerText power).head? ≠ some '.' := by
  unfold powerText
  split
  · exact ⟨nofun, nofun⟩
  · exact ⟨endsDigits_cons (by decide), by simp⟩

theorem power?_powerText (power : Int) : power? (powerText power) = some power := by
  unfold powerText
  split
  · rename_i hzero
    rw [hzero]
    rfl
  · exact power?_signed (.inr rfl) (allDigits_toDigits _) Nat.toDigits_ne_nil
      Nat.ofDigitChars_ten_toDigits

/-- **Coefficient and exponent are read** from the text of a magnitude. -/
theorem unsigned?_magnitudeText (coefficient : Nat) (exponent : Int) :
    unsigned? (magnitudeText coefficient exponent) = some (coefficient, exponent) := by
  obtain ⟨whole, fraction, power, hwritten, hvalue, hexponent⟩ :=
    magnitudeText_isWritten coefficient exponent
  obtain ⟨hends, hpoint⟩ := endsDigits_powerText power
  rw [hwritten.text, unsigned?_mantissa hwritten.some_whole hwritten.whole_digits
    hwritten.fraction_digits hends hpoint (power?_powerText power), hvalue, hexponent]

/-- A text that starts with a digit is no name. -/
theorem unsignedDecimal_of_isDigit {c : Char} {cs : List Char} (h : c.isDigit = true) :
    unsignedDecimal negative (c :: cs) = match unsigned? (c :: cs) with
      | some (coefficient, power) => ranged negative coefficient power
      | none => .error .malformed := by
  have hlowered : lowered (c :: cs) = c :: lowered cs := by
    rw [lowered, List.map_cons, toLower_of_isDigit h]
    rfl
  have hfirst : ∀ {mark : Char} {rest : List Char}, c :: lowered cs = mark :: rest →
      mark.isDigit = true := by
    intro mark rest heq
    rw [← (List.cons.inj heq).1]
    exact h
  unfold unsignedDecimal
  rw [hlowered]
  split
  · rename_i heq
    cases hfirst heq
  · rename_i heq
    cases hfirst heq
  · rename_i heq
    cases hfirst heq
  · exact if_neg fun heq => absurd (hfirst heq) (by decide)

/-- **A decimal number in range is read back from its text.** -/
theorem decimal_text (h : InRange d) : decimal d.text = .ok d := by
  rw [decimal_text_eq]
  cases d with
  | finite negative coefficient exponent =>
    obtain ⟨c, cs, hcs, hc⟩ := magnitudeText_cons coefficient exponent
    have hread := unsigned?_magnitudeText coefficient exponent
    show unsignedDecimal negative (magnitudeText coefficient exponent) = _
    rw [hcs] at hread ⊢
    rw [unsignedDecimal_of_isDigit hc, hread]
    exact if_pos h
  | infinity negative => rfl
  | nan negative signaling payload =>
    cases signaling
    · exact carried_payloadText false payload
    · exact carried_payloadText true payload

/-! ## What is read -/

theorem inRange_of_ranged {coefficient : Nat} {exponent : Int}
    (h : ranged negative coefficient exponent = .ok d) : InRange d := by
  unfold ranged at h
  dsimp only at h
  split at h
  · rename_i hrange
    cases h
    exact hrange
  · cases h

theorem inRange_of_carried {signaling : Bool} {digits : List Char}
    (h : carried negative signaling digits = .ok d) : InRange d := by
  unfold carried at h
  split at h
  · cases h
    exact trivial
  · cases h

/-- **What is read from a text is in range.** -/
theorem inRange_of_decimal (h : decimal s = .ok d) : InRange d := by
  unfold decimal unsignedDecimal at h
  dsimp only at h
  split at h
  · cases h
    exact trivial
  · exact inRange_of_carried h
  · exact inRange_of_carried h
  · split at h
    · cases h
      exact trivial
    · split at h
      · exact inRange_of_ranged h
      · cases h

/-- **A decimal number that is read is read back from its own text.** -/
theorem decimal_of_decimal (h : decimal s = .ok d) : decimal d.text = .ok d :=
  decimal_text (inRange_of_decimal h)

end Docstore.Number
