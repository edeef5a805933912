import Docstore.Number.Exact
import Mathlib.Algebra.Order.Field.Power
import Mathlib.NumberTheory.Padics.PadicVal.Basic
import Mathlib.Tactic.Linarith
import Mathlib.Tactic.Positivity

/-!
# What exact numbers stand for

The core of an exact number is divided by neither two nor five, and zero has one form only.  So the
powers of two and of five are those of the rational number that it stands for, and numbers in normal
form that stand for the same rational number are the same.

* `isNormal_ofScaled`, `value_ofScaled` — the normal form of a scaled number stands for it.
* `value_injective` — a rational number has one normal form.
* `Number.ofBinary64_isNormal` — floating-point numbers are turned into numbers in normal form.
-/

namespace Docstore.Exact

/-- The rational number that an exact number stands for, without its sign. -/
def magnitude (x : Exact) : ℚ := x.core * 2 ^ x.twos * 5 ^ x.fives

/-- The rational number that an exact number stands for. -/
def value (x : Exact) : ℚ := if x.negative then -x.magnitude else x.magnitude

/-- Neither two nor five divides the core, and zero is written in one way. -/
structure IsNormal (x : Exact) : Prop where
  odd : x.core ≠ 0 → ¬2 ∣ x.core
  notFive : x.core ≠ 0 → ¬5 ∣ x.core
  zero : x.core = 0 → x = ⟨false, 0, 0, 0⟩

/-! ## Normal forms -/

/-- Taking out a factor splits a number, and with enough fuel nothing of the factor is left. -/
theorem extract_spec {p : ℕ} (hp : 2 ≤ p) : ∀ {fuel n : ℕ}, n ≠ 0 → n < 2 ^ fuel →
    ∃ rest count, extract p fuel n = (rest, count) ∧ n = rest * p ^ count ∧ ¬p ∣ rest
  | 0, n, hn, hfuel => by
    rw [pow_zero] at hfuel
    omega
  | fuel + 1, n, hn, hfuel => by
    rw [extract]
    by_cases hdvd : n % p = 0
    · have hmul : p * (n / p) = n := Nat.mul_div_cancel' (Nat.dvd_of_mod_eq_zero hdvd)
      have hquotient : n / p ≠ 0 := by
        intro h
        rw [h] at hmul
        omega
      have hless : n / p < 2 ^ fuel := by
        have hle : 2 * (n / p) ≤ p * (n / p) := Nat.mul_le_mul_right _ hp
        rw [pow_succ] at hfuel
        omega
      obtain ⟨rest, count, hextract, hsplit, hrest⟩ := extract_spec hp hquotient hless
      refine ⟨rest, count + 1, by rw [if_pos hdvd, hextract], ?_, hrest⟩
      calc n = p * (rest * p ^ count) := by rw [← hsplit, hmul]
        _ = rest * p ^ (count + 1) := by ring
    · exact ⟨n, 0, by rw [if_neg hdvd], by simp, fun h => hdvd (Nat.mod_eq_zero_of_dvd h)⟩

/-- **The normal form of a scaled number** is what is left of it, beside the twos and fives. -/
theorem ofScaled_spec (negative : Bool) {n : ℕ} (twos fives : ℤ) (hn : n ≠ 0) :
    ∃ core i j : ℕ, n = core * 2 ^ i * 5 ^ j ∧ ¬2 ∣ core ∧ ¬5 ∣ core ∧
      ofScaled negative n twos fives = ⟨negative, core, twos + i, fives + j⟩ := by
  obtain ⟨odd, i, htwos, hn', hodd⟩ := extract_spec (le_refl 2) hn Nat.lt_log2_self
  have hpos : odd ≠ 0 := by
    rintro rfl
    exact hodd (dvd_zero 2)
  have hle : odd ≤ n := by
    rw [hn']
    exact Nat.le_mul_of_pos_right odd (by positivity)
  obtain ⟨core, j, hfives, hodd', hnotFive⟩ :=
    extract_spec (p := 5) (by decide) hpos (hle.trans_lt Nat.lt_log2_self)
  refine ⟨core, i, j, ?_, ?_, hnotFive, ?_⟩
  · rw [hn', hodd']
    ring
  · intro hdvd
    rw [hodd'] at hodd
    exact hodd (hdvd.mul_right _)
  · unfold ofScaled
    rw [if_neg hn]
    dsimp only
    rw [htwos]
    dsimp only
    rw [hfives]

/-- A normal form is in normal form. -/
theorem isNormal_ofScaled (negative : Bool) (n : ℕ) (twos fives : ℤ) :
    (ofScaled negative n twos fives).IsNormal := by
  by_cases hn : n = 0
  · subst hn
    exact ⟨fun h => absurd rfl h, fun h => absurd rfl h, fun _ => rfl⟩
  · obtain ⟨core, i, j, -, hodd, hnotFive, heq⟩ := ofScaled_spec negative twos fives hn
    rw [heq]
    refine ⟨fun _ => hodd, fun _ => hnotFive, ?_⟩
    rintro rfl
    exact absurd (dvd_zero 2) hodd

/-- **The normal form of a scaled number stands for it.** -/
theorem value_ofScaled (negative : Bool) (n : ℕ) (twos fives : ℤ) :
    (ofScaled negative n twos fives).value =
      if negative then -(n * 2 ^ twos * 5 ^ fives : ℚ) else n * 2 ^ twos * 5 ^ fives := by
  by_cases hn : n = 0
  · subst hn
    simp [ofScaled, value, magnitude]
  · obtain ⟨core, i, j, hsplit, -, -, heq⟩ := ofScaled_spec negative twos fives hn
    have hmagnitude : (ofScaled negative n twos fives).magnitude = n * 2 ^ twos * 5 ^ fives := by
      rw [heq, magnitude, hsplit, zpow_add₀ (by norm_num), zpow_add₀ (by norm_num)]
      push_cast
      rw [zpow_natCast, zpow_natCast]
      ring
    rw [value, hmagnitude, heq]

theorem value_ofInt (n : ℤ) : (ofInt n).value = n := by
  rw [ofInt, value_ofScaled, zpow_zero, zpow_zero, mul_one, mul_one, Nat.cast_natAbs]
  by_cases hn : n < 0
  · rw [if_pos (decide_eq_true hn), abs_of_neg hn]
    push_cast
    ring
  · rw [if_neg (by simpa using hn), abs_of_nonneg (by omega)]

theorem ofInt_inj {m n : ℤ} : ofInt m = ofInt n ↔ m = n := by
  refine ⟨fun h => ?_, fun h => by rw [h]⟩
  have hvalue := congrArg value h
  rw [value_ofInt, value_ofInt] at hvalue
  exact_mod_cast hvalue

/-! ## One normal form for each number -/

theorem magnitude_pos {x : Exact} (h : x.core ≠ 0) : 0 < x.magnitude := by
  have hcore : (0 : ℚ) < x.core := by exact_mod_cast Nat.pos_of_ne_zero h
  unfold magnitude
  positivity

/-- The power of a prime in a number whose other factors it does not divide. -/
theorem padicValRat_scaled {p q : ℕ} [hp : Fact p.Prime] (hq : ¬p ∣ q) {core : ℕ}
    (hcore : ¬p ∣ core) (i j : ℤ) : padicValRat p (core * p ^ i * q ^ j) = i := by
  have hp0 : (p : ℚ) ≠ 0 := by exact_mod_cast hp.out.ne_zero
  have hq0 : (q : ℚ) ≠ 0 := by
    rintro h
    exact hq (by simp_all)
  have hc0 : (core : ℚ) ≠ 0 := by
    rintro h
    exact hcore (by simp_all)
  rw [padicValRat.mul (mul_ne_zero hc0 (zpow_ne_zero i hp0)) (zpow_ne_zero j hq0),
    padicValRat.mul hc0 (zpow_ne_zero i hp0), padicValRat.zpow, padicValRat.zpow,
    padicValRat.self hp.out.one_lt, padicValRat.of_nat, padicValRat.of_nat,
    padicValNat.eq_zero_of_not_dvd hcore, padicValNat.eq_zero_of_not_dvd hq]
  simp

/-- Magnitudes in normal form determine the core and the powers. -/
theorem magnitude_injective {x y : Exact} (hx : x.IsNormal) (hy : y.IsNormal) (hx0 : x.core ≠ 0)
    (hy0 : y.core ≠ 0) (h : x.magnitude = y.magnitude) :
    x.core = y.core ∧ x.twos = y.twos ∧ x.fives = y.fives := by
  have : Fact (Nat.Prime 5) := ⟨Nat.prime_five⟩
  have hswap : ∀ z : Exact, z.magnitude = z.core * (5 : ℕ) ^ z.fives * (2 : ℕ) ^ z.twos := by
    intro z
    unfold magnitude
    push_cast
    ring
  -- the valuations at two and five read the powers off, since neither divides the core
  have htwos : x.twos = y.twos := by
    have hpower := congrArg (padicValRat 2) h
    have hx' := padicValRat_scaled (p := 2) (q := 5) (by decide) (hx.odd hx0) x.twos x.fives
    have hy' := padicValRat_scaled (p := 2) (q := 5) (by decide) (hy.odd hy0) y.twos y.fives
    exact hx'.symm.trans (hpower.trans hy')
  have hfives : x.fives = y.fives := by
    have hpower := congrArg (padicValRat 5) h
    rw [hswap x, hswap y, padicValRat_scaled (by decide) (hx.notFive hx0),
      padicValRat_scaled (by decide) (hy.notFive hy0)] at hpower
    exact hpower
  refine ⟨?_, htwos, hfives⟩
  unfold magnitude at h
  rw [htwos, hfives] at h
  have hscale : (2 : ℚ) ^ y.twos * 5 ^ y.fives ≠ 0 := by positivity
  rw [mul_assoc, mul_assoc] at h
  exact_mod_cast mul_right_cancel₀ hscale h

theorem value_eq_zero_iff {x : Exact} : x.value = 0 ↔ x.core = 0 := by
  constructor
  · intro h
    by_contra hcore
    have hpos := magnitude_pos hcore
    unfold value at h
    split at h <;> linarith
  · intro h
    simp [value, magnitude, h]

/-- **A rational number has one normal form.** -/
theorem value_injective {x y : Exact} (hx : x.IsNormal) (hy : y.IsNormal) (h : x.value = y.value) :
    x = y := by
  by_cases hx0 : x.core = 0
  · have hy0 : y.core = 0 := value_eq_zero_iff.mp (h.symm.trans (value_eq_zero_iff.mpr hx0))
    rw [hx.zero hx0, hy.zero hy0]
  · have hy0 : y.core ≠ 0 := by
      intro hy0
      exact hx0 (value_eq_zero_iff.mp (h.trans (value_eq_zero_iff.mpr hy0)))
    have hxpos := magnitude_pos hx0
    have hypos := magnitude_pos hy0
    have hboth : x.negative = y.negative ∧ x.magnitude = y.magnitude := by
      unfold value at h
      cases hxs : x.negative <;> cases hys : y.negative <;> simp only [hxs, hys] at h ⊢ <;>
        norm_num at h ⊢ <;> linarith
    obtain ⟨hcore, htwos, hfives⟩ := magnitude_injective hx hy hx0 hy0 hboth.2
    obtain ⟨negative, core, twos, fives⟩ := x
    obtain ⟨negative', core', twos', fives'⟩ := y
    simp_all

end Docstore.Exact

namespace Docstore.Number

/-- A number that is one, in normal form if it is finite. -/
def IsNormal : Number → Prop
  | .nan | .signaling => False
  | .infinity _ => True
  | .exact x => x.IsNormal

theorem ofBinary64_isNormal {x : Binary64} (hx : x ≠ .nan) : (ofBinary64 x).IsNormal := by
  cases x with
  | nan => exact hx rfl
  | infinity _ => trivial
  | finite _ _ _ _ => exact Exact.isNormal_ofScaled _ _ _ _

end Docstore.Number
