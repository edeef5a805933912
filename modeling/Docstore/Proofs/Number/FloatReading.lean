import Docstore.Proofs.Number.DecimalReading
import Docstore.Proofs.Number.Rounding

/-!
# Floating-point numbers are read back from their texts

The text of a finite number is a mantissa with a power of ten behind it perhaps.  Read as a
coefficient and an exponent it stands for the shortest digits of the number, which lie in the number's
interval; and a quotient in the interval of a number is rounded to it.

* `numeralValue_of_isWritten` — the value of a numeral, part by part.
* `nearest_of_holds` — a decimal number in the interval of a number is rounded to it.
* `binary64?_text` — every floating-point number is read back from its text.
-/

namespace Docstore.Binary64

open Decimal (mantissa)
open Number (unsigned? power? lowered binary64? unsignedBinary64? dropUnderscores? EndsDigits
  endsDigits_cons power?_signed unsigned?_mantissa toLower_of_isDigit)

variable {cs ds whole fraction tail : List Char} {power : ℤ} {m : ℕ} {e : ℤ} {q : ℚ}

/-! ## Parts of a numeral -/

/-- A power of ten behind a mantissa, which is left out where it is zero. -/
inductive IsPower : List Char → ℤ → Prop
  | absent : IsPower [] 0
  | signed {power : ℤ} {ds : List Char} (hds : AllDigits ds) (hsome : ds ≠ [])
      (hvalue : Nat.ofDigitChars 10 ds 0 = power.natAbs) :
      IsPower ('e' :: (if power < 0 then '-' else '+') :: ds) power

/-- A numeral is written as a mantissa and a power of ten. -/
structure IsWritten (cs whole fraction tail : List Char) (power : ℤ) : Prop where
  text : cs = mantissa whole fraction ++ tail
  some_whole : whole ≠ []
  whole_digits : AllDigits whole
  fraction_digits : AllDigits fraction
  tail_power : IsPower tail power

theorem isWritten_positional (hds : AllDigits ds) (hsome : ds ≠ []) (places : ℤ) :
    ∃ whole fraction, IsWritten (positional ds places) whole fraction [] 0 := by
  unfold positional
  split
  · refine ⟨['0'], List.replicate (-places).toNat '0' ++ ds, ?_, by simp, allDigits_zeros 1,
      (allDigits_zeros _).append hds, .absent⟩
    rw [mantissa, if_neg (by simp [hsome])]
    simp
  · rename_i hpos
    have hfront :
        AllDigits (ds.take places.toNat ++ List.replicate (places.toNat - ds.length) '0') :=
      AllDigits.append (fun c hc => hds c (List.mem_of_mem_take hc)) (allDigits_zeros _)
    have hback :
        AllDigits (if (ds.drop places.toNat).isEmpty then ['0'] else ds.drop places.toNat) := by
      split
      · exact allDigits_zeros 1
      · exact fun c hc => hds c (List.mem_of_mem_drop hc)
    have hbackSome :
        (if (ds.drop places.toNat).isEmpty then ['0'] else ds.drop places.toNat) ≠ [] := by
      split
      · simp
      · rename_i h
        simpa using h
    refine ⟨_, _, ?_, ?_, hfront, hback, .absent⟩
    · rw [mantissa, if_neg (by simpa only [List.isEmpty_iff] using hbackSome)]
      simp
    · simp only [ne_eq, List.append_eq_nil_iff, List.take_eq_nil_iff, hsome, or_false]
      omega

/-- The digits of a power of ten, two at least. -/
def powerDigits (power : ℤ) : List Char :=
  if (Nat.toDigits 10 power.natAbs).length < 2 then '0' :: Nat.toDigits 10 power.natAbs
  else Nat.toDigits 10 power.natAbs

theorem powerDigits_spec (power : ℤ) : AllDigits (powerDigits power) ∧ powerDigits power ≠ [] ∧
    Nat.ofDigitChars 10 (powerDigits power) 0 = power.natAbs := by
  have hdigits := allDigits_toDigits power.natAbs
  unfold powerDigits
  split
  · refine ⟨(allDigits_zeros 1).append hdigits, by simp, ?_⟩
    simp [Nat.ofDigitChars_cons]
  · exact ⟨hdigits, Nat.toDigits_ne_nil, Nat.ofDigitChars_ten_toDigits⟩

theorem isWritten_scientific {d : Char} (hds : AllDigits (d :: ds)) (power : ℤ) :
    ∃ tail, IsWritten (scientific (d :: ds) power) [d] ds tail power := by
  obtain ⟨hdigits, hsome, hvalue⟩ := powerDigits_spec power
  refine ⟨_, ?_, by simp, ?_, ?_, .signed hdigits hsome hvalue⟩
  · cases ds <;> simp [scientific, mantissa, powerDigits]
  · exact fun c hc => hds c (List.mem_singleton.mp hc ▸ List.mem_cons_self)
  · exact fun c hc => hds c (List.mem_cons_of_mem d hc)

/-- The text of a magnitude is a mantissa with a power of ten. -/
theorem isWritten_magnitudeText (e : ℤ) (hfit : m < 2 ^ 53) :
    ∃ whole fraction tail power, IsWritten (magnitudeText m e) whole fraction tail power := by
  unfold magnitudeText
  split
  · exact ⟨['0'], ['0'], [], 0, rfl, by simp, allDigits_zeros 1, allDigits_zeros 1, .absent⟩
  · rename_i hm
    obtain ⟨c, cs, hds⟩ := dropFinalZeros_toDigits (digits_pos (e := e) hm hfit)
    have hdigits := allDigits_dropFinalZeros (shortest m e).digits
    rw [hds] at hdigits
    simp only [hds]
    split
    · obtain ⟨whole, fraction, hwritten⟩ := isWritten_positional hdigits (by simp) _
      exact ⟨whole, fraction, [], 0, hwritten⟩
    · obtain ⟨tail, hwritten⟩ := isWritten_scientific hdigits _
      exact ⟨[c], cs, tail, _, hwritten⟩

/-- Behind a mantissa stands its end or the mark of a power. -/
theorem IsPower.ends (h : IsPower tail power) :
    EndsDigits tail ∧ tail.head? ≠ some '.' ∧ power? tail = some power := by
  cases h with
  | absent => exact ⟨nofun, nofun, rfl⟩
  | signed hds hsome hvalue =>
    exact ⟨endsDigits_cons (by decide), by simp, power?_signed (.inl rfl) hds hsome hvalue⟩

theorem unsigned?_of_isWritten (h : IsWritten cs whole fraction tail power) :
    unsigned? cs = some (Nat.ofDigitChars 10 (whole ++ fraction) 0, power - fraction.length) := by
  obtain ⟨hends, hpoint, hpower⟩ := h.tail_power.ends
  rw [h.text, unsigned?_mantissa h.some_whole h.whole_digits h.fraction_digits hends hpoint hpower]

/-- **The value of a numeral**, part by part. -/
theorem numeralValue_of_isWritten (h : IsWritten cs whole fraction tail power) :
    numeralValue cs = Nat.ofDigitChars 10 (whole ++ fraction) 0 * 10 ^ (power - fraction.length) := by
  have hmantissa : ∀ c ∈ mantissa whole fraction, (c != 'e') = true := by
    intro c hc
    unfold mantissa at hc
    split at hc
    · exact h.whole_digits.ne (by decide) c hc
    · rcases List.mem_append.mp hc with hc | hc
      · exact h.whole_digits.ne (by decide) c hc
      · rcases List.mem_cons.mp hc with rfl | hc
        · decide
        · exact h.fraction_digits.ne (by decide) c hc
  have hpoint : (mantissa whole fraction).takeWhile (· != '.') = whole ∧
      ((mantissa whole fraction).dropWhile (· != '.')).drop 1 = fraction := by
    have hwhole := h.whole_digits.ne (by decide : '.'.isDigit = false)
    unfold mantissa
    split
    · rename_i hempty
      obtain ⟨htake, hdrop⟩ := span_end hwhole
      rw [htake, hdrop, List.isEmpty_iff.mp hempty]
      exact ⟨rfl, rfl⟩
    · obtain ⟨htake, hdrop⟩ := span_mark hwhole fraction
      rw [htake, hdrop]
      exact ⟨rfl, rfl⟩
  have htail : tail.takeWhile (· != 'e') = [] ∧
      powerValue ((tail.dropWhile (· != 'e')).drop 1) = power := by
    cases h.tail_power with
    | absent => exact ⟨rfl, rfl⟩
    | signed hds hsome hvalue => exact ⟨rfl, powerValue_scientific _ _ hvalue⟩
  unfold numeralValue
  simp only [h.text, List.takeWhile_append_of_pos hmantissa, List.dropWhile_append_of_pos hmantissa,
    htail, List.append_nil, hpoint]

/-! ## Rounding -/

/-- The numbers of an interval are neither too small nor too great to be expanded. -/
theorem bounds_of_holds (hc : Canonical m e) (hm : m ≠ 0) (h : (intervalOf m e).Holds q) :
    2 ^ (-1076 : ℤ) ≤ q ∧ q ≤ 2 ^ (1024 : ℤ) := by
  obtain ⟨hlow, hhigh, -⟩ := holds_bounds h
  have hu : (0 : ℚ) < 2 ^ (e - 2) := by positivity
  constructor
  · have hone : 1 ≤ (intervalOf m e).low := by
      unfold intervalOf
      simp only
      split <;> omega
    have hone' : (1 : ℚ) ≤ (intervalOf m e).low := by exact_mod_cast hone
    have hleast : (2 : ℚ) ^ (-1076 : ℤ) ≤ 2 ^ (e - 2) :=
      zpow_le_zpow_right₀ (by norm_num) (by have := hc.least; omega)
    calc (2 : ℚ) ^ (-1076 : ℤ) ≤ 2 ^ (e - 2) := hleast
      _ ≤ (intervalOf m e).low * 2 ^ (e - 2) := le_mul_of_one_le_left hu.le hone'
      _ ≤ q := hlow
  · have hfit : m < 2 ^ 53 := hc.fits
    have hwide : 4 * m + 2 ≤ 2 ^ 55 := by omega
    have hwide' : ((4 * m + 2 : ℕ) : ℚ) ≤ 2 ^ (55 : ℤ) := by exact_mod_cast hwide
    have hgreatest : (2 : ℚ) ^ (e - 2) ≤ 2 ^ (969 : ℤ) :=
      zpow_le_zpow_right₀ (by norm_num) (by have := hc.greatest; omega)
    calc q ≤ ((4 * m + 2 : ℕ) : ℚ) * 2 ^ (e - 2) := hhigh
      _ ≤ 2 ^ (55 : ℤ) * 2 ^ (969 : ℤ) := mul_le_mul hwide' hgreatest hu.le (by positivity)
      _ = 2 ^ (1024 : ℤ) := by rw [← zpow_add₀ (by norm_num)]; norm_num

/-- The power of ten above a decimal number, and the one below it. -/
theorem decimal_bounds {coefficient : ℕ} (hc : coefficient ≠ 0) (exponent : ℤ) :
    (10 : ℚ) ^ (exponent + (Nat.toDigits 10 coefficient).length - 1) ≤ coefficient * 10 ^ exponent ∧
      (coefficient : ℚ) * 10 ^ exponent < 10 ^ (exponent + (Nat.toDigits 10 coefficient).length) := by
  have hpos : 0 < (Nat.toDigits 10 coefficient).length := Nat.length_toDigits_pos
  have hlow : (10 : ℚ) ^ ((Nat.toDigits 10 coefficient).length - 1) ≤ coefficient := by
    exact_mod_cast ten_pow_digitCount_le hc
  have hhigh : (coefficient : ℚ) < 10 ^ (Nat.toDigits 10 coefficient).length := by
    exact_mod_cast lt_ten_pow_digitCount coefficient
  generalize (Nat.toDigits 10 coefficient).length = count at *
  have hscale : (0 : ℚ) < 10 ^ exponent := by positivity
  constructor
  · have hsplit : (10 : ℚ) ^ (exponent + count - 1) = 10 ^ (count - 1) * 10 ^ exponent := by
      rw [← zpow_natCast, ← zpow_add₀ (by norm_num)]
      congr 1
      omega
    rw [hsplit]
    exact mul_le_mul_of_nonneg_right hlow hscale.le
  · have hsplit : (10 : ℚ) ^ (exponent + count) = 10 ^ count * 10 ^ exponent := by
      rw [← zpow_natCast, ← zpow_add₀ (by norm_num)]
      congr 1
      omega
    rw [hsplit]
    exact mul_lt_mul_of_pos_right hhigh hscale

theorem two_zpow_lt : (2 : ℚ) ^ (1200 : ℤ) < 10 ^ (400 : ℤ) := by
  have hcube : (2 : ℚ) ^ (1200 : ℤ) = (2 ^ 3) ^ (400 : ℤ) := by
    rw [← zpow_natCast, ← zpow_mul]
    norm_num
  rw [hcube]
  exact zpow_lt_zpow_left₀ (by norm_num) (by norm_num) (by norm_num)

/-- **A decimal number in the interval of a number is rounded to it.** -/
theorem nearest_of_holds (negative : Bool) (hc : Canonical m e) (hm : m ≠ 0) {coefficient : ℕ}
    {exponent : ℤ} (h : (intervalOf m e).Holds (coefficient * 10 ^ exponent)) :
    Decimal.nearest negative coefficient exponent = .finite negative m e hc := by
  obtain ⟨hleast, hgreatest⟩ := bounds_of_holds hc hm h
  have hcoefficient : coefficient ≠ 0 := by
    rintro rfl
    rw [Nat.cast_zero, zero_mul] at hleast
    exact absurd hleast (not_le.mpr (by positivity))
  obtain ⟨hbelow, habove⟩ := decimal_bounds hcoefficient exponent
  have hsmall : ¬400 < exponent + (Nat.toDigits 10 coefficient).length := by
    intro hlarge
    have hpower : (10 : ℚ) ^ (400 : ℤ) ≤ 10 ^ (exponent + (Nat.toDigits 10 coefficient).length - 1) :=
      zpow_le_zpow_right₀ (by norm_num) (by omega)
    have hbound : (2 : ℚ) ^ (1024 : ℤ) < 10 ^ (400 : ℤ) :=
      lt_of_le_of_lt (zpow_le_zpow_right₀ (by norm_num) (by norm_num)) two_zpow_lt
    exact absurd (hpower.trans (hbelow.trans hgreatest)) (not_le.mpr hbound)
  have hlarge : ¬exponent + (Nat.toDigits 10 coefficient).length < -400 := by
    intro hsmall
    have hpower : (10 : ℚ) ^ (exponent + (Nat.toDigits 10 coefficient).length) ≤ 10 ^ (-400 : ℤ) :=
      zpow_le_zpow_right₀ (by norm_num) (by omega)
    have hbound : (10 : ℚ) ^ (-400 : ℤ) < 2 ^ (-1076 : ℤ) := by
      rw [zpow_neg, zpow_neg]
      exact inv_strictAnti₀ (by positivity)
        (lt_of_le_of_lt (zpow_le_zpow_right₀ (by norm_num) (by norm_num)) two_zpow_lt)
    exact absurd (hleast.trans (habove.le.trans hpower)) (not_le.mpr hbound)
  have hratio : ((coefficient * Nat.pow 10 exponent.toNat : ℕ) : ℚ) /
      (Nat.pow 10 (-exponent).toNat : ℕ) = coefficient * 10 ^ exponent := by
    rw [zpow_eq_div 10 exponent]
    simp only [Nat.pow_eq]
    push_cast
    rw [mul_div_assoc]
  have hpos : ∀ k, Nat.pow 10 k ≠ 0 := fun k => (Nat.pow_pos (by decide)).ne'
  unfold Decimal.nearest
  simp only [hcoefficient, hsmall, hlarge, if_false]
  exact ofRatio_eq_finite negative hc (Nat.mul_ne_zero hcoefficient (hpos _)) (hpos _)
    (hratio ▸ h)

/-! ## Texts -/

/-- **The text of a magnitude is read as its number.** -/
theorem map_nearest_magnitudeText (negative : Bool) (hc : Canonical m e) :
    (unsigned? (magnitudeText m e)).map (fun x => Decimal.nearest negative x.1 x.2) =
      some (.finite negative m e hc) := by
  by_cases hm : m = 0
  · subst hm
    obtain rfl : e = -1074 := hc.normal.resolve_left (by decide)
    cases negative <;> rfl
  · obtain ⟨whole, fraction, tail, power, hwritten⟩ := isWritten_magnitudeText e hc.fits
    have hholds := shortest_holds (e := e) hm hc.fits
    rw [← numeralValue_magnitudeText hm (digits_pos hm hc.fits),
      numeralValue_of_isWritten hwritten] at hholds
    rw [unsigned?_of_isWritten hwritten, Option.map_some]
    exact congrArg some (nearest_of_holds negative hc hm hholds)

theorem dropUnderscores?_eq_self (afterDigit : Bool) (h : '_' ∉ cs) :
    dropUnderscores? afterDigit cs = some cs := by
  induction cs generalizing afterDigit with
  | nil => rfl
  | cons c cs ih =>
    rw [List.mem_cons, not_or] at h
    simp only [dropUnderscores?, Ne.symm h.1, if_false, ih _ h.2, Option.map_some]

/-- A text that starts with a digit is no name. -/
theorem unsignedBinary64?_of_isDigit {c : Char} (h : c.isDigit = true) (negative : Bool)
    (cs : List Char) : unsignedBinary64? negative (c :: cs) =
      (unsigned? (c :: cs)).map fun x => Decimal.nearest negative x.1 x.2 := by
  have hname : ∀ {mark : Char} {rest : List Char}, mark.isDigit = false →
      lowered (c :: cs) ≠ mark :: rest := by
    intro mark rest hmark heq
    rw [lowered, List.map_cons, toLower_of_isDigit h] at heq
    rw [← (List.cons.inj heq).1, h] at hmark
    cases hmark
  have hnan : lowered (c :: cs) ≠ "nan".toList := hname (by decide)
  have hinf : lowered (c :: cs) ≠ "inf".toList := hname (by decide)
  have hinfinity : lowered (c :: cs) ≠ "infinity".toList := hname (by decide)
  unfold unsignedBinary64?
  simp only [hnan, hinf, hinfinity, or_self, if_false]

/-- No character of a numeral is passed over. -/
theorem IsNumeralChar.is_read {c : Char} (h : IsNumeralChar c) :
    Text.isBlank c = false ∧ c ≠ '_' := by
  rcases h with h | rfl | rfl | rfl | rfl
  · refine ⟨Text.isBlank_of_isDigit h, ?_⟩
    rintro rfl
    cases h
  all_goals decide

/-- **Every floating-point number is read back from its text.** -/
theorem binary64?_text (x : Binary64) : binary64? x.text = some x := by
  cases x with
  | nan => decide +kernel
  | infinity negative => cases negative <;> decide +kernel
  | finite negative m e hc =>
    obtain ⟨d, ds, hds, hd⟩ := (isMagnitude_magnitudeText e hc.fits).head
    have htext : (Binary64.finite negative m e hc).text.toList =
        if negative then '-' :: d :: ds else d :: ds := by
      rw [text, textWith_toList, ← hds]
      rfl
    have hchars : ∀ c ∈ (Binary64.finite negative m e hc).text.toList, IsNumeralChar c := by
      have hmagnitude := (isMagnitude_magnitudeText e hc.fits).chars
      intro c hcs
      rw [htext, ← hds] at hcs
      split at hcs
      · rcases List.mem_cons.mp hcs with rfl | hcs
        · exact .inr (.inr (.inr (.inr rfl)))
        · exact hmagnitude c hcs
      · exact hmagnitude c hcs
    have htrim : Text.trim (Binary64.finite negative m e hc).text.toList =
        (Binary64.finite negative m e hc).text.toList :=
      Text.dropWhile_ends_eq_self fun c hcs => (hchars c hcs).is_read.1
    have hgap := dropUnderscores?_eq_self false fun hcs => (hchars '_' hcs).is_read.2 rfl
    have hsign := Text.splitSign_signed negative (Text.ne_of_isDigit hd (by decide))
      (Text.ne_of_isDigit hd (by decide)) ds
    unfold binary64?
    rw [htrim, hgap, htext]
    simp only [Option.bind_eq_bind, Option.bind_some, hsign]
    rw [unsignedBinary64?_of_isDigit hd, ← hds, map_nearest_magnitudeText negative hc]

end Docstore.Binary64
