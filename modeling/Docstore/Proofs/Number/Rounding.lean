import Docstore.Proofs.Number.RoundingInterval

/-!
# Quotients round to the number whose interval they lie in

A quotient is scaled so that its whole part has 53 bits, or as many as the least exponent leaves, and
the scaled quotient is rounded to a natural number.  Rounding goes no further than half a step, and at
half a step to an even mantissa; so the quotient lies in the interval of the number it is rounded to.
Intervals share no point, and therefore no other number has the quotient in its interval.

* `roundDiv_spec` — rounding goes half a step at most, and less to an odd number.
* `exponentFor_spec` — the chosen exponent leaves a whole part of 53 bits.
* `ofRatio_spec` — a quotient lies in the interval of the number it is rounded to.
* `ofRatio_eq_finite` — a quotient in the interval of a number is rounded to it.
-/

namespace Docstore.Binary64

variable {num den m : ℕ} {e : ℤ} {q : ℚ} {negative : Bool}

/-! ## Natural numbers -/

/-- Rounding goes half a step at most, and less where the result is odd. -/
theorem roundDiv_spec (n : ℕ) {d : ℕ} (hd : 0 < d) :
    2 * (roundDiv n d * d) ≤ 2 * n + d ∧ 2 * n ≤ 2 * (roundDiv n d * d) + d ∧
      (roundDiv n d % 2 = 1 → 2 * (roundDiv n d * d) < 2 * n + d ∧
        2 * n < 2 * (roundDiv n d * d) + d) := by
  have hsplit := Nat.div_add_mod' n d
  have hrest := Nat.mod_lt n hd
  unfold roundDiv
  dsimp only
  split
  · rename_i hup
    rw [Nat.add_mul, Nat.one_mul]
    omega
  · rename_i hdown
    omega

/-- The same of a quotient: rounding stays within half a step of it. -/
theorem roundDiv_near (n : ℕ) {d : ℕ} (hd : 0 < d) :
    (roundDiv n d : ℚ) - 1 / 2 ≤ n / d ∧ (n : ℚ) / d ≤ roundDiv n d + 1 / 2 ∧
      (roundDiv n d % 2 = 1 →
        (roundDiv n d : ℚ) - 1 / 2 < n / d ∧ (n : ℚ) / d < roundDiv n d + 1 / 2) := by
  obtain ⟨hlow, hhigh, hodd⟩ := roundDiv_spec n hd
  have hpos : (0 : ℚ) < d := by exact_mod_cast hd
  have hlow' : 2 * ((roundDiv n d : ℚ) * d) ≤ 2 * n + d := by exact_mod_cast hlow
  have hhigh' : 2 * (n : ℚ) ≤ 2 * (roundDiv n d * d) + d := by exact_mod_cast hhigh
  refine ⟨?_, ?_, fun h => ⟨?_, ?_⟩⟩
  · rw [le_div_iff₀ hpos]
    linarith
  · rw [div_le_iff₀ hpos]
    linarith
  · have hstrict : 2 * ((roundDiv n d : ℚ) * d) < 2 * n + d := by exact_mod_cast (hodd h).1
    rw [lt_div_iff₀ hpos]
    linarith
  · have hstrict : 2 * (n : ℚ) < 2 * (roundDiv n d * d) + d := by exact_mod_cast (hodd h).2
    rw [div_lt_iff₀ hpos]
    linarith

/-! ## Scaling -/

theorem scaled_den_pos (num : ℕ) (hden : den ≠ 0) (e : ℤ) : 0 < (scaled num den e).2 :=
  Nat.mul_pos (Nat.pos_of_ne_zero hden) (Nat.pow_pos (by decide))

theorem scaled_div (num : ℕ) (hden : den ≠ 0) (e : ℤ) :
    ((scaled num den e).1 : ℚ) / (scaled num den e).2 = num / den / 2 ^ e := by
  have hpos : (den : ℚ) ≠ 0 := by exact_mod_cast hden
  unfold scaled
  rw [zpow_eq_div 2 e]
  simp only [Nat.pow_eq]
  push_cast
  field_simp

/-- The guess for the exponent leaves 52 or 53 bits of the quotient. -/
theorem guess_bounds (hnum : num ≠ 0) (hden : den ≠ 0) :
    2 ^ (51 : ℤ) * 2 ^ ((Nat.log2 num : ℤ) - Nat.log2 den - 52) ≤ (num : ℚ) / den ∧
      (num : ℚ) / den < 2 ^ (53 : ℤ) * 2 ^ ((Nat.log2 num : ℤ) - Nat.log2 den - 52) := by
  have hpos : (0 : ℚ) < den := by exact_mod_cast Nat.pos_of_ne_zero hden
  have hnumLow : (2 : ℚ) ^ (Nat.log2 num : ℤ) ≤ num := by
    exact_mod_cast Nat.log2_self_le hnum
  have hnumHigh : (num : ℚ) < 2 ^ ((Nat.log2 num : ℤ) + 1) := by
    exact_mod_cast Nat.lt_log2_self (n := num)
  have hdenLow : (2 : ℚ) ^ (Nat.log2 den : ℤ) ≤ den := by
    exact_mod_cast Nat.log2_self_le hden
  have hdenHigh : (den : ℚ) < 2 ^ ((Nat.log2 den : ℤ) + 1) := by
    exact_mod_cast Nat.lt_log2_self (n := den)
  generalize (Nat.log2 num : ℤ) = a at *
  generalize (Nat.log2 den : ℤ) = b at *
  rw [← zpow_add₀ (by norm_num), ← zpow_add₀ (by norm_num), le_div_iff₀ hpos, div_lt_iff₀ hpos]
  constructor
  · calc (2 : ℚ) ^ (51 + (a - b - 52)) * den
        ≤ 2 ^ (51 + (a - b - 52)) * 2 ^ (b + 1) :=
          mul_le_mul_of_nonneg_left hdenHigh.le (by positivity)
      _ = 2 ^ a := by
          rw [← zpow_add₀ (by norm_num)]
          congr 1
          ring
      _ ≤ num := hnumLow
  · calc (num : ℚ) < 2 ^ (a + 1) := hnumHigh
      _ = 2 ^ (53 + (a - b - 52)) * 2 ^ b := by
          rw [← zpow_add₀ (by norm_num)]
          congr 1
          ring
      _ ≤ 2 ^ (53 + (a - b - 52)) * den :=
          mul_le_mul_of_nonneg_left hdenLow (by positivity)

theorem scaled_lt_iff_div (num : ℕ) (hden : den ≠ 0) (e : ℤ) (k : ℕ) :
    (scaled num den e).1 < (scaled num den e).2 * k ↔ (num : ℚ) / den < k * 2 ^ e := by
  have hpos : (0 : ℚ) < (scaled num den e).2 := by exact_mod_cast scaled_den_pos num hden e
  have hscale : (0 : ℚ) < 2 ^ e := by positivity
  rw [← div_lt_iff₀ hscale, ← scaled_div num hden, div_lt_iff₀ hpos, mul_comm]
  exact_mod_cast Iff.rfl

/-- **The chosen exponent leaves a whole part of 53 bits**, or of fewer if it is the least. -/
theorem exponentFor_spec (hnum : num ≠ 0) (hden : den ≠ 0) :
    -1074 ≤ exponentFor num den ∧
      (2 ^ 52 * 2 ^ exponentFor num den ≤ (num : ℚ) / den ∨ exponentFor num den = -1074) ∧
      (num : ℚ) / den < 2 ^ 53 * 2 ^ exponentFor num den := by
  obtain ⟨hlow, hhigh⟩ := guess_bounds hnum hden
  have hcond := scaled_lt_iff_div num hden ((Nat.log2 num : ℤ) - Nat.log2 den - 52) (2 ^ 52)
  unfold exponentFor
  dsimp only
  generalize (Nat.log2 num : ℤ) - Nat.log2 den - 52 = guess at *
  -- without the bound below, the exponent leaves exactly 53 bits
  have hbits : ∃ g, (if (scaled num den guess).1 < (scaled num den guess).2 * Nat.pow 2 52 then
      guess - 1 else guess) = g ∧ 2 ^ 52 * 2 ^ g ≤ (num : ℚ) / den ∧
        (num : ℚ) / den < 2 ^ 53 * 2 ^ g := by
    by_cases hless : (num : ℚ) / den < (2 ^ 52 : ℕ) * 2 ^ guess
    · have hstep : (2 : ℚ) ^ guess = 2 * 2 ^ (guess - 1) := by
        rw [← zpow_one_add₀ (by norm_num)]
        congr 1
        ring
      refine ⟨guess - 1, if_pos (hcond.mpr hless), ?_, ?_⟩
      · rw [hstep] at hlow
        linarith
      · rw [hstep] at hless
        push_cast at hless
        linarith
    · refine ⟨guess, if_neg fun h => hless (hcond.mp h), ?_, by exact_mod_cast hhigh⟩
      exact_mod_cast not_lt.mp hless
  obtain ⟨g, hg, hbelow, habove⟩ := hbits
  rw [hg]
  refine ⟨le_max_left _ _, ?_, ?_⟩
  · rcases max_choice (-1074) g with hmax | hmax
    · exact .inr hmax
    · rw [hmax]
      exact .inl hbelow
  · have hmono : (2 : ℚ) ^ g ≤ 2 ^ max (-1074) g :=
      zpow_le_zpow_right₀ (by norm_num) (le_max_right _ _)
    linarith

/-! ## Rounding -/

/-- A point between the ends of an interval lies in it, if the mantissa is even. -/
theorem holds_of_bounds (hlow : (intervalOf m e).low * 2 ^ (e - 2) ≤ q)
    (hhigh : q ≤ (4 * m + 2 : ℕ) * 2 ^ (e - 2))
    (hodd : m % 2 = 1 → (intervalOf m e).low * 2 ^ (e - 2) < q ∧ q < (4 * m + 2 : ℕ) * 2 ^ (e - 2)) :
    (intervalOf m e).Holds q := by
  unfold Interval.Holds
  have hclosed : (intervalOf m e).closed = (m % 2 == 0) := rfl
  rcases Nat.mod_two_eq_zero_or_one m with hm | hm
  · rw [hclosed, hm, if_pos (by decide)]
    exact ⟨hlow, hhigh⟩
  · rw [hclosed, hm, if_neg (by decide)]
    exact hodd hm

/-- A mantissa that is rounded to, with its exponent. -/
structure IsRounded (m : ℕ) (e : ℤ) (q : ℚ) : Prop where
  nonneg : 0 ≤ q
  least : -1074 ≤ e
  low : (4 * m - 2) * 2 ^ (e - 2) ≤ q
  high : q ≤ (4 * m + 2) * 2 ^ (e - 2)
  odd : m % 2 = 1 → (4 * m - 2) * 2 ^ (e - 2) < q ∧ q < (4 * m + 2) * 2 ^ (e - 2)
  normal : 2 ^ 52 * 2 ^ e ≤ q ∨ e = -1074
  fits : q < 2 ^ 53 * 2 ^ e

theorem four_mul_zpow (e : ℤ) : (2 : ℚ) ^ e = 4 * 2 ^ (e - 2) := by
  rw [zpow_sub₀ (by norm_num)]
  norm_num
  ring

theorem IsRounded.le (h : IsRounded m e q) : m ≤ 2 ^ 53 := by
  have hu : (0 : ℚ) < 2 ^ (e - 2) := by positivity
  have hlt : (4 * (m : ℚ) - 2) * 2 ^ (e - 2) < 2 ^ 55 * 2 ^ (e - 2) := by
    have hfits := h.fits
    rw [four_mul_zpow] at hfits
    linarith [h.low]
  have hsmall : 4 * (m : ℚ) < 2 ^ 55 + 2 := by linarith [lt_of_mul_lt_mul_right hlt hu.le]
  have hnat : 4 * m < 2 ^ 55 + 2 := by exact_mod_cast hsmall
  omega

theorem IsRounded.regular (h : IsRounded m e q) (hfits : m ≠ 2 ^ 53) : Regular m e := by
  refine ⟨lt_of_le_of_ne h.le hfits, h.least, h.normal.imp_left fun hnormal => ?_⟩
  have hu : (0 : ℚ) < 2 ^ (e - 2) := by positivity
  have hle : 2 ^ 54 * 2 ^ (e - 2) ≤ (4 * (m : ℚ) + 2) * 2 ^ (e - 2) := by
    rw [four_mul_zpow] at hnormal
    linarith [h.high]
  have hlarge : (2 : ℚ) ^ 54 ≤ 4 * m + 2 := le_of_mul_le_mul_right hle hu
  have hnat : 2 ^ 54 ≤ 4 * m + 2 := by exact_mod_cast hlarge
  omega

/-- The lower end of an interval.  Below a power of two the interval is half as wide, but nothing is
rounded up to a power of two from there. -/
theorem IsRounded.low_le (h : IsRounded m e q) :
    (intervalOf m e).low * 2 ^ (e - 2) ≤ q ∧
      (m % 2 = 1 → (intervalOf m e).low * 2 ^ (e - 2) < q) := by
  have hu : (0 : ℚ) < 2 ^ (e - 2) := by positivity
  by_cases hpower : m = 2 ^ 52 ∧ e ≠ -1074
  · have hhalf : (intervalOf m e).low = 4 * 2 ^ 52 - 1 := by
      unfold intervalOf
      simp only [Nat.pow_eq]
      rw [if_pos hpower, hpower.1]
    have hnormal := h.normal.resolve_right hpower.2
    rw [four_mul_zpow] at hnormal
    rw [hhalf]
    push_cast
    refine ⟨by linarith, fun hodd => ?_⟩
    rw [hpower.1] at hodd
    exact absurd hodd (by decide)
  · have hfull : (intervalOf m e).low = 4 * m - 2 := by
      unfold intervalOf
      simp only [Nat.pow_eq]
      exact if_neg hpower
    rw [hfull]
    rcases Nat.eq_zero_or_pos m with rfl | hm
    · refine ⟨?_, fun hodd => absurd hodd (by decide)⟩
      simpa using h.nonneg
    · have hcast : ((4 * m - 2 : ℕ) : ℚ) = 4 * m - 2 := by
        rw [Nat.cast_sub (by omega)]
        push_cast
        ring
      rw [hcast]
      exact ⟨h.low, fun hodd => (h.odd hodd).1⟩

theorem IsRounded.holds (h : IsRounded m e q) : (intervalOf m e).Holds q := by
  have hcast : ((4 * m + 2 : ℕ) : ℚ) = 4 * m + 2 := by push_cast; ring
  refine holds_of_bounds h.low_le.1 ?_ fun hodd => ⟨h.low_le.2 hodd, ?_⟩
  · rw [hcast]
    exact h.high
  · rw [hcast]
    exact (h.odd hodd).2

/-- A quotient that is rounded up to a power of two has the next exponent. -/
theorem IsRounded.holds_next (h : IsRounded (2 ^ 53) e q) :
    Regular (2 ^ 52) (e + 1) ∧ (intervalOf (2 ^ 52) (e + 1)).Holds q := by
  have hleast := h.least
  have hu : (0 : ℚ) < 2 ^ (e - 2) := by positivity
  have hstep : (2 : ℚ) ^ (e + 1 - 2) = 2 * 2 ^ (e - 2) := by
    rw [← zpow_one_add₀ (by norm_num)]
    congr 1
    ring
  have hhalf : (intervalOf (2 ^ 52) (e + 1)).low = 4 * 2 ^ 52 - 1 := by
    have hpower : 2 ^ 52 = Nat.pow 2 52 ∧ e + 1 ≠ -1074 := ⟨rfl, by omega⟩
    exact if_pos hpower
  refine ⟨⟨by decide, by omega, .inl (le_refl _)⟩, holds_of_bounds ?_ ?_ fun hodd => ?_⟩
  · have hlow := h.low
    rw [hhalf, hstep]
    push_cast at hlow ⊢
    linarith
  · have hfits := h.fits
    rw [four_mul_zpow] at hfits
    rw [hstep]
    push_cast
    linarith
  · exact absurd hodd (by decide)

/-- **A quotient lies in the interval of the number it is rounded to.** -/
theorem ofRatio_spec (negative : Bool) (hnum : num ≠ 0) (hden : den ≠ 0) :
    ∃ m e, Regular m e ∧ (intervalOf m e).Holds ((num : ℚ) / den) ∧
      ofRatio negative num den = ofScaled negative m e := by
  have hscale : (0 : ℚ) < 2 ^ exponentFor num den := by positivity
  obtain ⟨hleast, hnormal, hfits⟩ := exponentFor_spec hnum hden
  obtain ⟨hlow, hhigh, hodd⟩ := roundDiv_near (scaled num den (exponentFor num den)).1
    (scaled_den_pos num hden (exponentFor num den))
  rw [scaled_div num hden] at hlow hhigh hodd
  rw [le_div_iff₀ hscale] at hlow
  rw [div_le_iff₀ hscale] at hhigh
  rw [lt_div_iff₀ hscale, div_lt_iff₀ hscale] at hodd
  have hrounded : IsRounded (roundDiv (scaled num den (exponentFor num den)).1
      (scaled num den (exponentFor num den)).2) (exponentFor num den) (num / den) := by
    rw [four_mul_zpow] at hlow hhigh hodd
    exact ⟨by positivity, hleast, by linarith, by linarith,
      fun h => ⟨by linarith [(hodd h).1], by linarith [(hodd h).2]⟩, hnormal, hfits⟩
  unfold ofRatio
  rw [if_neg hnum]
  dsimp only
  split
  · rename_i hpower
    rw [hpower] at hrounded
    exact ⟨_, _, hrounded.holds_next.1, hrounded.holds_next.2, rfl⟩
  · rename_i hpower
    exact ⟨_, _, hrounded.regular hpower, hrounded.holds, rfl⟩

/-- **A quotient in the interval of a number is rounded to it.** -/
theorem ofRatio_eq_finite (negative : Bool) (hc : Canonical m e) (hnum : num ≠ 0) (hden : den ≠ 0)
    (h : (intervalOf m e).Holds ((num : ℚ) / den)) :
    ofRatio negative num den = .finite negative m e hc := by
  obtain ⟨n, f, hregular, hholds, hresult⟩ := ofRatio_spec negative hnum hden
  obtain ⟨rfl, rfl⟩ := holds_unique hc.regular hregular h hholds
  rw [hresult, ofScaled, dif_pos hc]

end Docstore.Binary64
