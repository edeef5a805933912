import Docstore.Number.Decimal
import Docstore.Proofs.Json.ScalarText

/-!
# The text of a decimal number determines it

Decimal numbers keep the zeros that they were written with, and their texts show them: the digits of
a text, without its point, are those of the coefficient, and the place of the point and the power of
ten together give the exponent.  Numbers that are not finite are named, and the names start with
letters of their own.

* `parts_magnitudeText` — coefficient and exponent are read off the text of a magnitude.
* `text_injective` — different decimal numbers have different texts.
* `quote_not_mem_text` — no text of a decimal number has a quote in it.
-/

namespace Docstore.Decimal

open Binary64 (AllDigits)

/-- The digits of a numeral without the point, as a number, and the power of ten that belongs to
them. -/
def parts (cs : List Char) : Nat × Int :=
  let mantissa := cs.takeWhile (· != 'E')
  let whole := mantissa.takeWhile (· != '.')
  let fraction := (mantissa.dropWhile (· != '.')).drop 1
  (Nat.ofDigitChars 10 (whole ++ fraction) 0,
    Binary64.powerValue ((cs.dropWhile (· != 'E')).drop 1) - fraction.length)

/-- A mantissa: digits, with a point in front of some of them perhaps. -/
def mantissa (whole fraction : List Char) : List Char :=
  if fraction.isEmpty then whole else whole ++ '.' :: fraction

/-- The power of ten behind a mantissa, which is left out where it is zero. -/
def powerText (power : Int) : List Char :=
  if power = 0 then [] else
    'E' :: (if power < 0 then '-' else '+') :: Nat.toDigits 10 power.natAbs

theorem powerValue_powerText (power : Int) :
    ((powerText power).takeWhile (· != 'E') = []) ∧
      Binary64.powerValue (((powerText power).dropWhile (· != 'E')).drop 1) = power := by
  unfold powerText
  split
  · rename_i h
    exact ⟨rfl, h.symm⟩
  · exact ⟨rfl, Binary64.powerValue_scientific power _ Nat.ofDigitChars_ten_toDigits⟩

/-- **A numeral is read part by part.** -/
theorem parts_append {whole fraction : List Char} (hwhole : AllDigits whole)
    (hfraction : AllDigits fraction) (power : Int) :
    parts (mantissa whole fraction ++ powerText power) =
      (Nat.ofDigitChars 10 (whole ++ fraction) 0, power - fraction.length) := by
  have hpoint : ∀ c ∈ whole, (c != '.') = true := hwhole.ne (by decide)
  have hplain : ∀ c ∈ mantissa whole fraction, (c != 'E') = true := by
    intro c hc
    unfold mantissa at hc
    split at hc
    · exact hwhole.ne (by decide) c hc
    · rcases List.mem_append.mp hc with hc | hc
      · exact hwhole.ne (by decide) c hc
      · rcases List.mem_cons.mp hc with rfl | hc
        · decide
        · exact hfraction.ne (by decide) c hc
  have hsplit : (mantissa whole fraction).takeWhile (· != '.') = whole ∧
      ((mantissa whole fraction).dropWhile (· != '.')).drop 1 = fraction := by
    unfold mantissa
    split
    · rename_i hnone
      obtain ⟨htake, hdrop⟩ := Binary64.span_end hpoint
      rw [htake, hdrop, List.isEmpty_iff.mp hnone]
      exact ⟨rfl, rfl⟩
    · obtain ⟨htake, hdrop⟩ := Binary64.span_mark hpoint fraction
      rw [htake, hdrop]
      exact ⟨rfl, rfl⟩
  obtain ⟨hnone, hpower⟩ := powerValue_powerText power
  unfold parts
  simp only [List.takeWhile_append_of_pos hplain, List.dropWhile_append_of_pos hplain, hnone,
    List.append_nil, hsplit.1, hsplit.2, hpower]

/-- A magnitude is written as a mantissa and a power of ten. -/
structure IsWritten (cs whole fraction : List Char) (power : Int) : Prop where
  text : cs = mantissa whole fraction ++ powerText power
  some_whole : whole ≠ []
  whole_digits : AllDigits whole
  fraction_digits : AllDigits fraction

/-- Where a magnitude is cut depends on the place of its first digit. -/
theorem magnitudeText_isWritten (coefficient : Nat) (exponent : Int) :
    ∃ whole fraction power, IsWritten (magnitudeText coefficient exponent) whole fraction power ∧
      Nat.ofDigitChars 10 (whole ++ fraction) 0 = coefficient ∧
      power - fraction.length = exponent := by
  have hvalue : Nat.ofDigitChars 10 (Nat.toDigits 10 coefficient) 0 = coefficient :=
    Nat.ofDigitChars_ten_toDigits
  have hdigits := Binary64.allDigits_toDigits coefficient
  have hpositive : 0 < (Nat.toDigits 10 coefficient).length := Nat.length_toDigits_pos
  unfold magnitudeText
  generalize Nat.toDigits 10 coefficient = ds at hvalue hdigits hpositive
  have hsome : ds ≠ [] := List.length_pos_iff.mp hpositive
  have hnone : powerText 0 = [] := rfl
  dsimp only
  split
  · split
    · -- the first digit stands behind the point
      have hzeros := (Binary64.allDigits_zeros (-(exponent + ds.length)).toNat).append hdigits
      refine ⟨['0'], _, 0, ⟨?_, by simp, Binary64.allDigits_zeros 1, hzeros⟩, ?_, ?_⟩
      · rw [mantissa, if_neg (by simp [hsome]), hnone]
        simp
      · rw [← List.append_assoc, ← List.replicate_one, List.replicate_append_replicate,
          Nat.ofDigitChars_append, Nat.ofDigitChars_replicate_zero, Nat.mul_zero, hvalue]
      · simp only [List.length_append, List.length_replicate]
        omega
    · split
      · rename_i hzero
        refine ⟨ds, [], 0, ⟨?_, hsome, hdigits, nofun⟩, ?_, ?_⟩
        · rw [mantissa, hnone]
          simp
        · rw [List.append_nil, hvalue]
        · simp [hzero]
      · -- the point stands among the digits
        have hwhole : (exponent + ds.length).toNat < ds.length := by omega
        refine ⟨ds.take (exponent + ds.length).toNat, ds.drop (exponent + ds.length).toNat, 0,
          ⟨?_, ?_, ?_, ?_⟩, ?_, ?_⟩
        · rw [mantissa, if_neg (by simp [hwhole]), hnone]
          simp
        · simp only [ne_eq, List.take_eq_nil_iff, hsome, or_false]
          omega
        · exact fun c hc => hdigits c (List.mem_of_mem_take hc)
        · exact fun c hc => hdigits c (List.mem_of_mem_drop hc)
        · rw [List.take_append_drop, hvalue]
        · simp only [List.length_drop]
          omega
  · cases ds with
    | nil => exact absurd rfl hsome
    | cons d rest =>
      refine ⟨[d], rest, exponent + (d :: rest).length - 1, ⟨?_, by simp, ?_, ?_⟩, hvalue, ?_⟩
      · cases rest <;> simp [mantissa, powerText]
      · exact fun c hc => hdigits c (List.mem_singleton.mp hc ▸ List.mem_cons_self)
      · exact fun c hc => hdigits c (List.mem_cons_of_mem d hc)
      · simp only [List.length_cons]
        omega

/-- **The coefficient and the exponent** are read off the text of a magnitude. -/
theorem parts_magnitudeText (coefficient : Nat) (exponent : Int) :
    parts (magnitudeText coefficient exponent) = (coefficient, exponent) := by
  obtain ⟨whole, fraction, power, hwritten, hvalue, hexponent⟩ :=
    magnitudeText_isWritten coefficient exponent
  rw [hwritten.text, parts_append hwritten.whole_digits hwritten.fraction_digits, hvalue, hexponent]

theorem magnitudeText_cons (coefficient : Nat) (exponent : Int) :
    ∃ d ds, magnitudeText coefficient exponent = d :: ds ∧ d.isDigit = true := by
  obtain ⟨whole, fraction, power, hwritten, -, -⟩ := magnitudeText_isWritten coefficient exponent
  obtain ⟨d, ds, rfl⟩ := List.exists_cons_of_ne_nil hwritten.some_whole
  have hd := hwritten.whole_digits d List.mem_cons_self
  rw [hwritten.text, mantissa]
  split
  · exact ⟨d, _, rfl, hd⟩
  · exact ⟨d, _, rfl, hd⟩

/-! ## Names and signs -/

/-- The digits that a number carries along that is none. -/
def payloadText (payload : Nat) : List Char :=
  if payload = 0 then [] else Nat.toDigits 10 payload

/-- The text of a number without its sign. -/
def unsigned : Decimal → List Char
  | .finite _ coefficient exponent => magnitudeText coefficient exponent
  | .infinity _ => ['I', 'n', 'f', 'i', 'n', 'i', 't', 'y']
  | .nan _ false payload => ['N', 'a', 'N'] ++ payloadText payload
  | .nan _ true payload => ['s', 'N', 'a', 'N'] ++ payloadText payload

def isNegative : Decimal → Bool
  | .finite negative _ _ | .infinity negative | .nan negative _ _ => negative

theorem text_toList (d : Decimal) : d.text.toList =
    if d.isNegative then '-' :: d.unsigned else d.unsigned := by
  cases d with
  | finite negative coefficient exponent =>
    cases negative <;> simp [text, isNegative, unsigned]
  | infinity negative => cases negative <;> simp [text, isNegative, unsigned]
  | nan negative signaling payload =>
    cases negative <;> cases signaling <;> simp [text, isNegative, unsigned, payloadText]

/-- The first characters of numbers without their signs tell their kinds apart. -/
theorem unsigned_cons (d : Decimal) : ∃ c cs, d.unsigned = c :: cs ∧ c ≠ '-' ∧
    match d with
    | .finite .. => c.isDigit = true
    | .infinity _ => c = 'I'
    | .nan _ signaling _ => c = if signaling then 's' else 'N' := by
  cases d with
  | finite negative coefficient exponent =>
    obtain ⟨c, cs, hcs, hc⟩ := magnitudeText_cons coefficient exponent
    exact ⟨c, cs, hcs, Json.ne_minus_of_isDigit hc, hc⟩
  | infinity => exact ⟨'I', _, rfl, by decide, rfl⟩
  | nan negative signaling payload =>
    cases signaling
    · exact ⟨'N', _, rfl, by decide, rfl⟩
    · exact ⟨'s', _, rfl, by decide, rfl⟩

theorem payloadText_injective {m n : Nat} (h : payloadText m = payloadText n) : m = n := by
  unfold payloadText at h
  split at h <;> split at h
  · omega
  · exact absurd h.symm Nat.toDigits_ne_nil
  · exact absurd h Nat.toDigits_ne_nil
  · exact Json.toDigits_injective h

/-- **Different decimal numbers have different texts.** -/
theorem text_injective {d e : Decimal} (h : d.text = e.text) : d = e := by
  have hchars := congrArg String.toList h
  obtain ⟨c, cs, hd, hc, hkind⟩ := unsigned_cons d
  obtain ⟨c', cs', he, hc', hkind'⟩ := unsigned_cons e
  rw [text_toList, text_toList] at hchars
  obtain ⟨hsign, hunsigned⟩ :=
    Json.signed_injective ⟨c, cs, hd, hc⟩ ⟨c', cs', he, hc'⟩ hchars
  have hfirst : c = c' := by
    rw [hd, he] at hunsigned
    exact (List.cons.inj hunsigned).1
  subst hfirst
  cases d with
  | finite negative coefficient exponent =>
    cases e with
    | finite negative' coefficient' exponent' =>
      have hparts := congrArg parts hunsigned
      rw [unsigned, unsigned, parts_magnitudeText, parts_magnitudeText] at hparts
      obtain ⟨rfl, rfl⟩ := Prod.mk.inj hparts
      rw [isNegative, isNegative] at hsign
      rw [hsign]
    | infinity => rw [hkind'] at hkind; cases hkind
    | nan negative' signaling' payload' =>
      rw [hkind'] at hkind
      cases signaling' <;> cases hkind
  | infinity negative =>
    cases e with
    | finite => rw [hkind] at hkind'; cases hkind'
    | infinity negative' =>
      rw [isNegative, isNegative] at hsign
      rw [hsign]
    | nan negative' signaling' payload' =>
      rw [hkind] at hkind'
      cases signaling' <;> cases hkind'
  | nan negative signaling payload =>
    cases e with
    | finite =>
      rw [hkind] at hkind'
      cases signaling <;> cases hkind'
    | infinity =>
      rw [hkind] at hkind'
      cases signaling <;> cases hkind'
    | nan negative' signaling' payload' =>
      have hsignaling : signaling = signaling' := by
        rw [hkind] at hkind'
        cases signaling <;> cases signaling' <;> first | rfl | cases hkind'
      rw [isNegative, isNegative] at hsign
      subst hsign hsignaling
      cases signaling <;> rw [payloadText_injective (List.append_cancel_left hunsigned)]

/-- No text of a decimal number has a quote in it. -/
theorem quote_not_mem_text (d : Decimal) : '\'' ∉ d.text.toList := by
  have hdigits : ∀ {ds : List Char}, AllDigits ds → '\'' ∉ ds := fun h hc =>
    absurd (h _ hc) (by decide)
  have hpayload : ∀ payload, '\'' ∉ payloadText payload := by
    intro payload
    unfold payloadText
    split
    · exact List.not_mem_nil
    · exact hdigits (Binary64.allDigits_toDigits payload)
  have hunsigned : '\'' ∉ d.unsigned := by
    cases d with
    | infinity => simp [unsigned]
    | nan negative signaling payload =>
      cases signaling <;> simp [unsigned, hpayload payload]
    | finite negative coefficient exponent =>
      obtain ⟨whole, fraction, power, hwritten, -, -⟩ := magnitudeText_isWritten coefficient exponent
      have hmantissa : '\'' ∉ mantissa whole fraction := by
        unfold mantissa
        split <;> simp [hdigits hwritten.whole_digits, hdigits hwritten.fraction_digits]
      have hpower : '\'' ∉ powerText power := by
        have htoDigits := hdigits (Binary64.allDigits_toDigits power.natAbs)
        unfold powerText
        split
        · exact List.not_mem_nil
        · split <;> simp [htoDigits]
      rw [unsigned, hwritten.text]
      exact fun hc => (List.mem_append.mp hc).elim hmantissa hpower
  rw [text_toList]
  split
  · simp [hunsigned]
  · exact hunsigned

end Docstore.Decimal
