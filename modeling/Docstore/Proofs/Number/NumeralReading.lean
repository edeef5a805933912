import Docstore.Number.Reading
import Docstore.Proofs.Number.DecimalText
import Docstore.Proofs.Text.Numeral

/-!
# Numerals with a point are read part by part

A numeral has digits, with a point in front of some of them perhaps, and a power of ten behind a mark.
The digits end where the point or the mark stands, so each part is read for itself.

* `spanDigits_append` — digits are taken off the front of a text.
* `power?_signed` — a power of ten is read behind its mark and its sign.
* `unsigned?_mantissa` — digits and powers of ten together are read as coefficient and exponent.
-/

namespace Docstore.Number

open Text (decimalDigit? decimalDigit?_of_isDigit ofDigits ofDigits_map splitSign signed)
open Binary64 (AllDigits)
open Decimal (mantissa)

variable {ds rest whole fraction tail : List Char} {negative : Bool}

/-- No digit is read off the front of a text. -/
def EndsDigits (rest : List Char) : Prop := ∀ c ∈ rest.head?, decimalDigit? c = none

theorem endsDigits_cons {c : Char} (h : decimalDigit? c = none) : EndsDigits (c :: rest) :=
  fun _ hd => Option.some.inj hd ▸ h

/-- **Digits are taken off the front of a text**, up to the first character that is none. -/
theorem spanDigits_append (h : AllDigits ds) (hrest : EndsDigits rest) :
    spanDigits (ds ++ rest) = (ds.map fun c => c.toNat - '0'.toNat, rest) := by
  induction ds with
  | nil =>
    cases rest with
    | nil => rfl
    | cons c rest =>
      have hc := hrest c rfl
      simp [spanDigits, hc]
  | cons c ds ih =>
    have hc := decimalDigit?_of_isDigit (h c List.mem_cons_self)
    have hds := ih fun d hd => h d (List.mem_cons_of_mem c hd)
    simp [spanDigits, hc, hds]

theorem spanDigits_all (h : AllDigits ds) :
    spanDigits ds = (ds.map fun c => c.toNat - '0'.toNat, []) := by
  have hnone : EndsDigits [] := nofun
  have hspan := spanDigits_append h hnone
  rwa [List.append_nil] at hspan

theorem splitSign_power (power : Int) (ds : List Char) :
    splitSign ((if power < 0 then '-' else '+') :: ds) = (decide (power < 0), ds) := by
  by_cases h : power < 0
  · rw [if_pos h, decide_eq_true h]
    rfl
  · rw [if_neg h, decide_eq_false h]
    rfl

/-- **A power of ten is read** behind its mark and its sign. -/
theorem power?_signed {mark : Char} (hmark : mark = 'e' ∨ mark = 'E') {power : Int}
    (h : AllDigits ds) (hsome : ds ≠ []) (hvalue : Nat.ofDigitChars 10 ds 0 = power.natAbs) :
    power? (mark :: (if power < 0 then '-' else '+') :: ds) = some power := by
  have hspan := spanDigits_all h
  have hsigned : signed (decide (power < 0)) power.natAbs = power := by
    unfold signed
    by_cases hneg : power < 0
    · rw [decide_eq_true hneg, if_pos rfl]
      omega
    · rw [decide_eq_false hneg, if_neg Bool.false_ne_true]
      omega
  obtain ⟨d, rest, rfl⟩ := List.exists_cons_of_ne_nil hsome
  rw [← ofDigits_map, List.map_cons] at hvalue
  simp only [power?, if_pos hmark, splitSign_power, hspan, List.map_cons, hvalue, hsigned]

theorem spanFraction_of_ne (h : rest.head? ≠ some '.') : spanFraction rest = ([], rest) := by
  unfold spanFraction
  split
  · exact absurd rfl h
  · rfl

/-- **Digits and a power of ten** are read as a coefficient and the power that belongs to it. -/
theorem unsigned?_mantissa (hsome : whole ≠ []) (hwhole : AllDigits whole)
    (hfraction : AllDigits fraction) (hends : EndsDigits tail) (hpoint : tail.head? ≠ some '.')
    {power : Int} (hpower : power? tail = some power) :
    unsigned? (mantissa whole fraction ++ tail) =
      some (Nat.ofDigitChars 10 (whole ++ fraction) 0, power - fraction.length) := by
  have hspan : ∃ rest, spanDigits (mantissa whole fraction ++ tail) =
      (whole.map fun c => c.toNat - '0'.toNat, rest) ∧
        spanFraction rest = (fraction.map fun c => c.toNat - '0'.toNat, tail) := by
    unfold mantissa
    split
    · rename_i hempty
      obtain rfl := List.isEmpty_iff.mp hempty
      exact ⟨tail, spanDigits_append hwhole hends, spanFraction_of_ne hpoint⟩
    · refine ⟨'.' :: (fraction ++ tail), ?_, spanDigits_append hfraction hends⟩
      rw [List.append_assoc]
      exact spanDigits_append hwhole (endsDigits_cons (by decide))
  obtain ⟨rest, hdigits, hbehind⟩ := hspan
  have hnonempty : (whole.map fun c => c.toNat - '0'.toNat).isEmpty = false := by
    rw [List.isEmpty_map, List.isEmpty_eq_false_iff]
    exact hsome
  simp only [unsigned?, hdigits, hbehind, hnonempty, Bool.false_and, Bool.false_eq_true, if_false,
    hpower, Option.map_some, List.length_map, ← List.map_append, ofDigits_map]

end Docstore.Number
