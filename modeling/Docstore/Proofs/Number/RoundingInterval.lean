import Mathlib.Algebra.Order.Field.Power
import Mathlib.Tactic.FieldSimp
import Mathlib.Tactic.Linarith
import Mathlib.Tactic.NormNum
import Mathlib.Tactic.Positivity
import Mathlib.Tactic.Ring
import Docstore.Number.Shortest

/-!
# Shortest digits stay in the interval of their number

A finite number `m · 2 ^ e` owns an interval of rationals, those that round to it.  The search for
its shortest digits goes through decimal grids of one to seventeen digits and takes a neighbour of
the number that lies in the interval.

* `scaled_le_iff`, `scaled_lt_iff` — the comparisons of the search, which are made in natural
  numbers, are comparisons of rationals.
* `onGrid_contains`, `onGrid_ne_none` — what a grid finds lies in the interval, and a grid whose
  step is less than the width of the interval finds something.
* `shortest_holds` — seventeen digits suffice, so the shortest digits lie in the interval.
* `holds_unique` — the intervals of different numbers share no point.
-/

namespace Docstore.Binary64

/-! ## Rationals and their scaled comparison -/

/-- The number that decimal digits and a power of ten stand for. -/
def Decimals.value (d : Decimals) : ℚ := d.digits * 10 ^ d.power

/-- A rational number lies in an interval; the ends belong to closed intervals only. -/
def Interval.Holds (i : Interval) (q : ℚ) : Prop :=
  if i.closed then i.low * 2 ^ i.exponent ≤ q ∧ q ≤ i.high * 2 ^ i.exponent
  else i.low * 2 ^ i.exponent < q ∧ q < i.high * 2 ^ i.exponent

theorem zpow_eq_div (b : ℚ) (k : ℤ) : b ^ k = b ^ k.toNat / b ^ (-k).toNat := by
  rcases le_total 0 k with hk | hk
  · obtain ⟨n, rfl⟩ := Int.eq_ofNat_of_zero_le hk
    simp
  · obtain ⟨n, hn⟩ := Int.eq_ofNat_of_zero_le (neg_nonneg.mpr hk)
    obtain rfl : k = -(n : ℤ) := by omega
    simp [zpow_neg]

/-- The factor of an interval's end when it is compared with a multiple of `10 ^ p`. -/
def scaleUp (e p : ℤ) : ℕ := 2 ^ e.toNat * 10 ^ (-p).toNat

/-- The factor of the multiple of `10 ^ p` in this comparison. -/
def scaleDown (e p : ℤ) : ℕ := 2 ^ (-e).toNat * 10 ^ p.toNat

theorem scaleDown_pos (e p : ℤ) : 0 < scaleDown e p := by unfold scaleDown; positivity

theorem scaleUp_eq (e p : ℤ) : (scaleUp e p : ℚ) = 2 ^ e * (scaleDown e p / 10 ^ p) := by
  rw [zpow_eq_div 2 e, zpow_eq_div 10 p]
  unfold scaleUp scaleDown
  push_cast
  field_simp

theorem scale_pos (e p : ℤ) : (0 : ℚ) < scaleDown e p / 10 ^ p := by
  have hd : (0 : ℚ) < scaleDown e p := by exact_mod_cast scaleDown_pos e p
  positivity

theorem mul_scaleDown_eq (n : ℕ) (e p : ℤ) :
    (n : ℚ) * scaleDown e p = n * 10 ^ p * (scaleDown e p / 10 ^ p) := by
  field_simp

theorem scaled_le_iff (a n : ℕ) (e p : ℤ) :
    a * scaleUp e p ≤ n * scaleDown e p ↔ (a : ℚ) * 2 ^ e ≤ n * 10 ^ p := by
  rw [← Nat.cast_le (α := ℚ), Nat.cast_mul, Nat.cast_mul, scaleUp_eq, mul_scaleDown_eq, ← mul_assoc]
  exact mul_le_mul_iff_of_pos_right (scale_pos e p)

theorem scaled_lt_iff (a n : ℕ) (e p : ℤ) :
    a * scaleUp e p < n * scaleDown e p ↔ (a : ℚ) * 2 ^ e < n * 10 ^ p := by
  rw [← Nat.cast_lt (α := ℚ), Nat.cast_mul, Nat.cast_mul, scaleUp_eq, mul_scaleDown_eq, ← mul_assoc]
  exact mul_lt_mul_iff_of_pos_right (scale_pos e p)

/-! ## Grids -/

/-- The test in natural numbers that `n · 10 ^ power` lies in an interval. -/
def Interval.Contains (i : Interval) (power : ℤ) (n : ℕ) : Prop :=
  if i.closed then i.low * scaleUp i.exponent power ≤ n * scaleDown i.exponent power ∧
    n * scaleDown i.exponent power ≤ i.high * scaleUp i.exponent power
  else i.low * scaleUp i.exponent power < n * scaleDown i.exponent power ∧
    n * scaleDown i.exponent power < i.high * scaleUp i.exponent power

instance (i : Interval) (power : ℤ) (n : ℕ) : Decidable (i.Contains power n) :=
  inferInstanceAs (Decidable (if i.closed then _ else _))

/-- The greatest multiple of `10 ^ power` that is not above the value of an interval. -/
def Interval.floor (i : Interval) (power : ℤ) : ℕ :=
  i.value * scaleUp i.exponent power / scaleDown i.exponent power

/-- Whether the lower neighbour on the grid is taken when both belong to the interval. -/
def Interval.lowerIsNearer (i : Interval) (power : ℤ) : Bool :=
  decide (2 * i.value * scaleUp i.exponent power <
      (2 * i.floor power + 1) * scaleDown i.exponent power ∨
    (2 * i.value * scaleUp i.exponent power =
      (2 * i.floor power + 1) * scaleDown i.exponent power ∧ i.floor power % 2 = 0))

theorem onGrid_eq (i : Interval) (power : ℤ) :
    onGrid i power =
      if decide (i.Contains power (i.floor power)) &&
          (i.lowerIsNearer power || !decide (i.Contains power (i.floor power + 1))) then
        some ⟨i.floor power, power⟩
      else if decide (i.Contains power (i.floor power + 1)) then some ⟨i.floor power + 1, power⟩
      else none := rfl

/-- What a grid finds lies in the interval. -/
theorem onGrid_contains {i : Interval} {power : ℤ} {d : Decimals} (h : onGrid i power = some d) :
    d.power = power ∧ i.Contains power d.digits := by
  rw [onGrid_eq] at h
  split at h
  · rename_i hc
    simp only [Bool.and_eq_true, decide_eq_true_eq] at hc
    cases h
    exact ⟨rfl, hc.1⟩
  · split at h
    · rename_i hc
      cases h
      exact ⟨rfl, by simpa using hc⟩
    · cases h

/-- A grid that finds nothing has neither neighbour of the value in the interval. -/
theorem onGrid_eq_none {i : Interval} {power : ℤ} (h : onGrid i power = none) :
    ¬ i.Contains power (i.floor power) ∧ ¬ i.Contains power (i.floor power + 1) := by
  rw [onGrid_eq] at h
  split at h
  · cases h
  · rename_i hlower
    split at h
    · cases h
    · rename_i hupper
      simp only [decide_eq_true_eq] at hupper
      refine ⟨fun hl => hlower ?_, hupper⟩
      simp [hl, hupper]

theorem Interval.contains_iff (i : Interval) (power : ℤ) (n : ℕ) :
    i.Contains power n ↔ i.Holds (Decimals.value ⟨n, power⟩) := by
  have h1 := scaled_le_iff i.low n i.exponent power
  have h2 := scaled_lt_iff i.low n i.exponent power
  have h3 : n * scaleDown i.exponent power ≤ i.high * scaleUp i.exponent power ↔
      (n : ℚ) * 10 ^ power ≤ i.high * 2 ^ i.exponent := by
    rw [← not_lt, scaled_lt_iff, not_lt]
  have h4 : n * scaleDown i.exponent power < i.high * scaleUp i.exponent power ↔
      (n : ℚ) * 10 ^ power < i.high * 2 ^ i.exponent := by
    rw [← not_le, scaled_le_iff, not_le]
  unfold Interval.Contains Interval.Holds Decimals.value
  split
  · rw [h1, h3]
  · rw [h2, h4]

/-- An interval that is wider than the grid's step contains a neighbour of its value. -/
theorem onGrid_ne_none {i : Interval} {power : ℤ} (hl : i.low < i.value) (hv : i.value < i.high)
    (hw : (10 : ℚ) ^ power < (i.high - i.low) * 2 ^ i.exponent) : onGrid i power ≠ none := by
  intro hnone
  obtain ⟨hlower, hupper⟩ := onGrid_eq_none hnone
  rw [i.contains_iff] at hlower hupper
  have h2 : (0 : ℚ) < 2 ^ i.exponent := by positivity
  have hlow : (i.low : ℚ) * 2 ^ i.exponent < i.value * 2 ^ i.exponent :=
    mul_lt_mul_of_pos_right (by exact_mod_cast hl) h2
  have hhigh : (i.value : ℚ) * 2 ^ i.exponent < i.high * 2 ^ i.exponent :=
    mul_lt_mul_of_pos_right (by exact_mod_cast hv) h2
  have hbelow : (i.floor power : ℚ) * 10 ^ power ≤ i.value * 2 ^ i.exponent := by
    rw [← not_lt, ← scaled_lt_iff, not_lt]
    exact Nat.div_mul_le_self _ _
  have habove : (i.value : ℚ) * 2 ^ i.exponent < (i.floor power + 1 : ℕ) * 10 ^ power := by
    rw [← scaled_lt_iff]
    exact Nat.lt_mul_of_div_lt (Nat.lt_succ_self _) (scaleDown_pos _ _)
  have hstep : ((i.floor power + 1 : ℕ) : ℚ) * 10 ^ power =
      i.floor power * 10 ^ power + 10 ^ power := by
    push_cast; ring
  unfold Interval.Holds Decimals.value at hlower hupper
  simp only at hlower hupper
  -- the lower neighbour is in the interval, or a step above it does not leave the interval
  by_cases hin : (i.low : ℚ) * 2 ^ i.exponent < i.floor power * 10 ^ power
  · apply hlower
    split
    · exact ⟨hin.le, by linarith⟩
    · exact ⟨hin, by linarith⟩
  · apply hupper
    rw [hstep] at habove ⊢
    split
    · constructor <;> linarith
    · constructor <;> linarith

/-! ## Seventeen digits -/

theorem lt_ten_pow_digitCount (n : ℕ) : n < 10 ^ digitCount n :=
  (Nat.length_toDigits_le_iff (by decide) Nat.length_toDigits_pos).mp (Nat.le_refl _)

theorem ten_pow_digitCount_le {n : ℕ} (hn : n ≠ 0) : 10 ^ (digitCount n - 1) ≤ n := by
  by_contra hlt
  have hpos : 0 < digitCount n := Nat.length_toDigits_pos
  rcases Nat.eq_zero_or_pos (digitCount n - 1) with h0 | h0
  · rw [h0] at hlt; omega
  · have := (Nat.length_toDigits_le_iff (b := 10) (by decide) h0).mpr (not_le.mp hlt)
    unfold digitCount at *
    omega

/-- The first significant digit of a quotient stands at its leading power or above. -/
theorem ten_zpow_leadingPower_le {num den : ℕ} (hn : num ≠ 0) (hd : den ≠ 0) :
    (10 : ℚ) ^ leadingPower num den ≤ num / den := by
  have hden : (0 : ℚ) < den := by exact_mod_cast Nat.pos_of_ne_zero hd
  unfold leadingPower
  split
  · rename_i hle
    have hq : num / den ≠ 0 := by
      have := Nat.div_pos hle (Nat.pos_of_ne_zero hd)
      omega
    have hpos : 0 < digitCount (num / den) := Nat.length_toDigits_pos
    have hcast : ((digitCount (num / den) : ℤ) - 1) = ((digitCount (num / den) - 1 : ℕ) : ℤ) := by
      omega
    rw [hcast, zpow_natCast, le_div_iff₀ hden]
    have := Nat.mul_le_mul_right den (ten_pow_digitCount_le hq)
    exact_mod_cast this.trans (Nat.div_mul_le_self num den)
  · have hlt := lt_ten_pow_digitCount ((den - 1) / num)
    rw [Nat.div_lt_iff_lt_mul (Nat.pos_of_ne_zero hn)] at hlt
    rw [zpow_neg, zpow_natCast, inv_eq_one_div, div_le_div_iff₀ (by positivity) hden]
    have : den ≤ num * 10 ^ digitCount ((den - 1) / num) := by
      rw [Nat.mul_comm] at hlt; omega
    rw [one_mul]
    exact_mod_cast this

/-- The digits found on some grid, as long as the last grid finds one. -/
theorem firstOnGrid_holds {i : Interval} {leading : ℤ} :
    ∀ (fuel count : ℕ), 0 < fuel →
      onGrid i (leading + 1 - (count + fuel - 1 : ℕ)) ≠ none →
      i.Holds (firstOnGrid i leading fuel count).value
  | 0, _, h, _ => by omega
  | fuel + 1, count, _, hlast => by
    unfold firstOnGrid
    split
    · rename_i d hd
      obtain ⟨hp, hc⟩ := onGrid_contains hd
      rw [i.contains_iff, ← hp] at hc
      exact hc
    · rename_i hnone
      rcases Nat.eq_zero_or_pos fuel with rfl | hpos
      · exact absurd hnone hlast
      · refine firstOnGrid_holds fuel (count + 1) hpos ?_
        rwa [show count + 1 + fuel - 1 = count + (fuel + 1) - 1 by omega]

/-- The interval around a mantissa of at most 53 bits is wider than the step of 17 digits. -/
theorem step_lt_width {m : ℕ} {e : ℤ} (hm : m ≠ 0) (hfit : m < 2 ^ 53) :
    let i := intervalOf m e
    (10 : ℚ) ^ (leadingPower (i.value * 2 ^ i.exponent.toNat) (2 ^ (-i.exponent).toNat) - 16) <
      (i.high - i.low) * 2 ^ i.exponent := by
  intro i
  have hv : i.value = 4 * m := rfl
  have hlead : (10 : ℚ) ^ leadingPower (i.value * 2 ^ i.exponent.toNat) (2 ^ (-i.exponent).toNat) ≤
      i.value * 2 ^ i.exponent := by
    have hnum : i.value * 2 ^ i.exponent.toNat ≠ 0 := by
      rw [hv]; positivity
    have := ten_zpow_leadingPower_le hnum (pow_ne_zero (-i.exponent).toNat two_ne_zero)
    rw [zpow_eq_div 2 i.exponent, ← mul_div_assoc]
    exact_mod_cast this
  have h2 : (0 : ℚ) < 2 ^ i.exponent := by positivity
  rw [zpow_sub₀ (by norm_num), div_lt_iff₀ (by norm_num)]
  refine lt_of_le_of_lt hlead ?_
  have hwide : (i.value : ℚ) < (i.high - i.low) * 10 ^ (16 : ℤ) := by
    have hhigh : i.high = 4 * m + 2 := rfl
    have hmq : (m : ℚ) < 9007199254740992 := by
      exact_mod_cast hfit.trans_eq (by norm_num)
    rw [hv, hhigh]
    unfold i intervalOf
    simp only
    split
    · rename_i hmin
      rw [hmin.1]
      norm_num
    · rw [Nat.cast_sub (by omega)]
      push_cast
      norm_num
      linarith
  calc (i.value : ℚ) * 2 ^ i.exponent
      < (i.high - i.low) * 10 ^ (16 : ℤ) * 2 ^ i.exponent := mul_lt_mul_of_pos_right hwide h2
    _ = (i.high - i.low) * 2 ^ i.exponent * 10 ^ (16 : ℤ) := by ring

/-- **The shortest digits read back**: they lie in the interval around the number. -/
theorem shortest_holds {m : ℕ} {e : ℤ} (hm : m ≠ 0) (hfit : m < 2 ^ 53) :
    (intervalOf m e).Holds (shortest m e).value := by
  unfold shortest
  rw [if_neg hm]
  refine firstOnGrid_holds 17 1 (by decide) ?_
  refine onGrid_ne_none ?_ ?_ ?_
  · unfold intervalOf
    simp only
    split <;> omega
  · simp [intervalOf]
  · have := step_lt_width (e := e) hm hfit
    refine lt_of_eq_of_lt ?_ this
    simp only [Nat.pow_eq]
    congr 1
    push_cast
    ring

/-! ## Disjoint intervals -/

/-- A mantissa and an exponent in canonical form, as far as exponents are not bounded above. -/
structure Regular (m : ℕ) (e : ℤ) : Prop where
  fits : m < 2 ^ 53
  least : -1074 ≤ e
  normal : 2 ^ 52 ≤ m ∨ e = -1074

theorem Canonical.regular {m : ℕ} {e : ℤ} (h : Canonical m e) : Regular m e :=
  ⟨h.fits, h.least, h.normal⟩

/-- Points of an interval keep between its ends, strictly where the mantissa is odd. -/
theorem holds_bounds {m : ℕ} {e : ℤ} {q : ℚ} (h : (intervalOf m e).Holds q) :
    (intervalOf m e).low * 2 ^ (e - 2) ≤ q ∧ q ≤ (4 * m + 2 : ℕ) * 2 ^ (e - 2) ∧
      (m % 2 = 1 → (intervalOf m e).low * 2 ^ (e - 2) < q ∧ q < (4 * m + 2 : ℕ) * 2 ^ (e - 2)) := by
  unfold Interval.Holds at h
  have hc : (intervalOf m e).closed = (m % 2 == 0) := rfl
  have he : (intervalOf m e).exponent = e - 2 := rfl
  have hh : (intervalOf m e).high = 4 * m + 2 := rfl
  rw [he, hh] at h
  split at h
  · rename_i hclosed
    refine ⟨h.1, h.2, fun hodd => ?_⟩
    rw [hc] at hclosed
    simp [hodd] at hclosed
  · exact ⟨h.1.le, h.2.le, fun _ => h⟩

/-- The upper end of a number's interval is at most the lower end of the next one's, and less where
both mantissas are even. -/
theorem gap {m n : ℕ} {e f : ℤ} (hm : Regular m e) (hn : Regular n f)
    (h : e < f ∨ e = f ∧ m < n) :
    4 * m + 2 ≤ (intervalOf n f).low * 2 ^ (f - e).toNat ∧
      (m % 2 = 0 → n % 2 = 0 → 4 * m + 2 < (intervalOf n f).low * 2 ^ (f - e).toNat) := by
  have hfit := hm.fits
  have hleast := hm.least
  rcases h with hlt | ⟨rfl, hlt⟩
  · -- above the least exponent a mantissa has all its bits, and doubling it leaves room
    have hnormal : 2 ^ 52 ≤ n := hn.normal.resolve_right (by omega)
    have hstep : 2 ≤ 2 ^ (f - e).toNat := Nat.le_self_pow (by omega) 2
    have hlow : 2 ^ 54 - 1 ≤ (intervalOf n f).low := by
      unfold intervalOf
      simp only [Nat.pow_eq]
      split <;> omega
    have hmul := Nat.mul_le_mul hlow hstep
    constructor
    · omega
    · intro heven _
      omega
  · have hlow : 4 * n - 2 ≤ (intervalOf n e).low := by
      unfold intervalOf
      simp only
      split <;> omega
    simp only [sub_self, Int.toNat_zero, pow_zero, mul_one]
    constructor
    · omega
    · intro _ _
      omega

/-- Intervals come in the order of their numbers. -/
theorem holds_lt {m n : ℕ} {e f : ℤ} (hm : Regular m e) (hn : Regular n f)
    (h : e < f ∨ e = f ∧ m < n) {q r : ℚ} (hq : (intervalOf m e).Holds q)
    (hr : (intervalOf n f).Holds r) : q < r := by
  obtain ⟨-, hqle, hqlt⟩ := holds_bounds hq
  obtain ⟨hrle, -, hrlt⟩ := holds_bounds hr
  obtain ⟨hgap, hgapEven⟩ := gap hm hn h
  have hu : (0 : ℚ) < 2 ^ (e - 2) := by positivity
  have hscale : ((intervalOf n f).low : ℚ) * 2 ^ (f - 2) =
      ((intervalOf n f).low * 2 ^ (f - e).toNat : ℕ) * 2 ^ (e - 2) := by
    have hto : ((f - e).toNat : ℤ) = f - e := Int.toNat_of_nonneg (by omega)
    push_cast
    rw [mul_assoc, ← zpow_natCast, hto, ← zpow_add₀ (by norm_num)]
    congr 2
    ring
  rw [hscale] at hrle hrlt
  have hle : ((4 * m + 2 : ℕ) : ℚ) * 2 ^ (e - 2) ≤
      ((intervalOf n f).low * 2 ^ (f - e).toNat : ℕ) * 2 ^ (e - 2) :=
    mul_le_mul_of_nonneg_right (by exact_mod_cast hgap) hu.le
  -- an end belongs to the interval of an even mantissa only, and between two of them is a gap
  rcases Nat.mod_two_eq_zero_or_one m with hm2 | hm2
  · rcases Nat.mod_two_eq_zero_or_one n with hn2 | hn2
    · have hlt : ((4 * m + 2 : ℕ) : ℚ) * 2 ^ (e - 2) <
          ((intervalOf n f).low * 2 ^ (f - e).toNat : ℕ) * 2 ^ (e - 2) :=
        mul_lt_mul_of_pos_right (by exact_mod_cast hgapEven hm2 hn2) hu
      linarith
    · have := (hrlt hn2).1
      linarith
  · have := (hqlt hm2).2
    linarith

/-- **The intervals of different numbers share no point.** -/
theorem holds_unique {m n : ℕ} {e f : ℤ} (hm : Regular m e) (hn : Regular n f) {q : ℚ}
    (hq : (intervalOf m e).Holds q) (hr : (intervalOf n f).Holds q) : m = n ∧ e = f := by
  rcases lt_trichotomy e f with he | rfl | he
  · exact absurd (holds_lt hm hn (.inl he) hq hr) (lt_irrefl q)
  · rcases lt_trichotomy m n with hlt | rfl | hlt
    · exact absurd (holds_lt hm hn (.inr ⟨rfl, hlt⟩) hq hr) (lt_irrefl q)
    · exact ⟨rfl, rfl⟩
    · exact absurd (holds_lt hn hm (.inr ⟨rfl, hlt⟩) hr hq) (lt_irrefl q)
  · exact absurd (holds_lt hn hm (.inl he) hr hq) (lt_irrefl q)

end Docstore.Binary64
