import Docstore.Proofs.Number.ExactValue
import Docstore.Proofs.Text.PaddedNumeral
import Docstore.Query.Condition
import Mathlib.Data.Nat.Cast.Field

/-!
# The whole number that a value denotes

A value denotes a whole number if it is that number, in whatever format, or if it is text, or octets
in UTF-8, that says it.  No value denotes two, and validation never makes another number of a value
than the one that it denotes.

* `Value.Denotes` — a value denotes a whole number.
* `Value.Denotes.unique` — a value denotes one number at most.
* `Value.Denotes.eq_zero` — a value that counts as nothing denotes no number but zero.
* `Validation.denotes_of_integer` — what validation reads is what the value denotes.
-/

namespace Docstore

/-! ## Numbers without a fractional part -/

namespace Exact

variable {negative : Bool} {m n : ℕ} {twos fives : ℤ}

/-- What is left of a scaled number that has no fractional part. -/
theorem cast_scaled {b : ℕ} (hb : b ≠ 0) (e : ℤ) (h : m % Nat.pow b (-e).toNat = 0) :
    ((m * Nat.pow b e.toNat / Nat.pow b (-e).toNat : ℕ) : ℚ) = m * b ^ e := by
  have hb' : (b : ℚ) ≠ 0 := by exact_mod_cast hb
  rcases Int.eq_nat_or_neg e with ⟨k, rfl | rfl⟩
  · simp
  · have hdvd : b ^ k ∣ m := Nat.dvd_of_mod_eq_zero (by simpa using h)
    have hcast : ((m / b ^ k : ℕ) : ℚ) = m / b ^ k := by
      rw [Nat.cast_div hdvd (by exact_mod_cast pow_ne_zero k hb), Nat.cast_pow]
    simpa [div_eq_mul_inv] using hcast

/-- A scaled number that stands for a whole one is that number. -/
theorem ofScaled_eq_ofInt (h : (n : ℚ) = m * 2 ^ twos * 5 ^ fives) :
    ofScaled negative m twos fives = ofInt (Text.signed negative n) := by
  refine value_injective (isNormal_ofScaled ..) (isNormal_ofScaled ..) ?_
  rw [value_ofScaled, value_ofInt, ← h]
  cases negative <;> simp [Text.signed]

end Exact

theorem Binary64.truncate_of_isWhole {x : Binary64} {n : ℤ} (hn : x.truncate? = some n)
    (h : x.isWhole = true) : Number.ofBinary64 x = .exact (.ofInt n) := by
  cases x with
  | nan | infinity => cases hn
  | finite negative mantissa exponent canonical =>
    have hwhole := Exact.cast_scaled (m := mantissa) two_ne_zero exponent (beq_iff_eq.mp h)
    cases hn
    refine congrArg Number.exact (Exact.ofScaled_eq_ofInt ?_)
    rw [hwhole, zpow_zero, mul_one, Nat.cast_two]

theorem Decimal.truncate_of_isWhole {d : Decimal} {n : ℤ} (hn : d.truncate? = some n)
    (h : d.isWhole = true) : Number.ofDecimal d = .exact (.ofInt n) := by
  cases d with
  | nan | infinity => cases hn
  | finite negative coefficient exponent =>
    have hwhole := Exact.cast_scaled (b := 10) (m := coefficient) (by decide) exponent
      (beq_iff_eq.mp h)
    cases hn
    refine congrArg Number.exact (Exact.ofScaled_eq_ofInt ?_)
    rw [hwhole, mul_assoc, ← mul_zpow]
    norm_num

/-! ## What a value denotes -/

namespace Value

variable {v : Value} {m n : ℤ}

/-- The text that a value is: text, or octets in UTF-8. -/
def written? : Value → Option String
  | .bytes octets => String.fromUTF8? ⟨octets.toArray⟩
  | v => v.text?

/-- A value denotes a whole number: it is that number, or it is text that says it. -/
def Denotes (v : Value) (n : ℤ) : Prop :=
  v.number? = some (.exact (.ofInt n)) ∨ ∃ s, v.written? = some s ∧ Text.Says s.toList n

/-- What is a number is no text. -/
theorem written?_of_number {x : Number} (h : v.number? = some x) : v.written? = none := by
  cases v with
  | bool | int | float | decimal => rfl
  | _ => cases h

/-- **A value denotes one whole number at most.** -/
theorem Denotes.unique (hm : v.Denotes m) (hn : v.Denotes n) : m = n := by
  rcases hm with hm | ⟨s, hs, hm⟩
  · rcases hn with hn | ⟨t, ht, -⟩
    · have hsame := Option.some.inj (hm.symm.trans hn)
      exact Exact.ofInt_inj.mp (Number.exact.inj hsame)
    · cases ht.symm.trans (written?_of_number hm)
  · rcases hn with hn | ⟨t, ht, hn⟩
    · cases hs.symm.trans (written?_of_number hn)
    · cases hs.symm.trans ht
      exact hm.unique hn

theorem number?_of_falsy {x : Number} (hfalsy : v.isTruthy = false) (h : v.number? = some x) :
    x = .exact (.ofInt 0) := by
  cases v with
  | bool b =>
    cases b with
    | true => cases hfalsy
    | false => exact (Option.some.inj h).symm
  | int k =>
    have hk : k = 0 := by simpa [isTruthy] using hfalsy
    rw [← Option.some.inj h, hk]
  | float y =>
    cases y with
    | nan | infinity => cases hfalsy
    | finite negative mantissa exponent canonical =>
      cases mantissa with
      | succ k => cases hfalsy
      | zero => exact (Option.some.inj h).symm
  | decimal d =>
    cases d with
    | nan | infinity => cases hfalsy
    | finite negative coefficient exponent =>
      cases coefficient with
      | succ k => cases hfalsy
      | zero => exact (Option.some.inj h).symm
  | _ => cases h

theorem written?_of_falsy {s : String} (hfalsy : v.isTruthy = false) (h : v.written? = some s) :
    s.toList = [] := by
  cases v with
  | str t =>
    cases h
    exact List.isEmpty_iff.mp (by simpa [isTruthy] using hfalsy)
  | bytes octets =>
    have hnil : octets = [] := by simpa [isTruthy] using hfalsy
    have hempty : String.fromUTF8? ⟨#[]⟩ = some "" := rfl
    subst hnil
    cases hempty.symm.trans h
    rfl
  | operator | connector | direction => cases hfalsy
  | _ => cases h

/-- **A value that counts as nothing** denotes no whole number but zero. -/
theorem Denotes.eq_zero (h : v.Denotes n) (hfalsy : v.isTruthy = false) : n = 0 := by
  rcases h with h | ⟨s, hs, hsays⟩
  · exact Exact.ofInt_inj.mp (Number.exact.inj (number?_of_falsy hfalsy h))
  · exact absurd (written?_of_falsy hfalsy hs) hsays.ne_nil

end Value

/-! ## What validation reads -/

namespace Validation

variable {field : String} {v : Value} {n : ℤ}

theorem says_of_integerText {s : String} (h : integerText field v s = .ok n) :
    Text.Says s.toList n := by
  unfold integerText at h
  split at h
  · rename_i hread
    cases h
    exact .of_readPadded hread
  · cases h
  · cases h

/-- **What validation reads of a value** is the whole number that the value denotes. -/
theorem denotes_of_integer (h : integer field v = .ok n) : v.Denotes n := by
  unfold integer at h
  split at h
  · exact .inl (by rw [Value.number?, Except.ok.inj h])
  · cases h
    exact .inl rfl
  · split at h
    · cases h
    · rename_i hn
      split at h
      · cases h
      · rename_i hwhole
        split at h
        · cases h
          exact .inl (congrArg some (Binary64.truncate_of_isWhole hn (by simpa using hwhole)))
        · cases h
  · split at h
    · cases h
    · rename_i hn
      split at h
      · rename_i hwhole
        cases h
        exact .inl (congrArg some (Decimal.truncate_of_isWhole hn hwhole))
      · cases h
  · split at h
    · rename_i s hs
      exact .inr ⟨s, hs, says_of_integerText h⟩
    · cases h
  · rename_i hbytes
    split at h
    · rename_i s hs
      refine .inr ⟨s, ?_, says_of_integerText h⟩
      cases v with
      | bytes octets => exact absurd rfl (hbytes octets)
      | _ => exact hs
    · cases h

end Validation

end Docstore
