import Docstore.Proofs.Number.RoundingInterval

/-!
# The text of a floating-point number determines it

A numeral is read as a rational: its digits without the point, times the power of ten that the place
of the point and the exponent give.  Read this way, the text of a magnitude stands for its shortest
digits, and these lie in no other number's interval.

* `numeralValue_magnitudeText` — the text of a magnitude stands for its shortest digits, whether it
  is written out or with an exponent.
* `magnitudeText_injective` — numbers with the same text are the same.
* `isMagnitude_magnitudeText` — the text starts with a digit, consists of digits, points, exponents
  and signs, and has a point or an exponent.
-/

namespace Docstore.Binary64

/-! ## Texts of magnitudes -/

/-- The power of ten behind the mark of a scientific numeral. -/
def powerValue : List Char → ℤ
  | '-' :: ds => -(Nat.ofDigitChars 10 ds 0 : ℤ)
  | '+' :: ds => Nat.ofDigitChars 10 ds 0
  | _ => 0

/-- The number that a numeral stands for: digits with a point, and a power of ten perhaps. -/
def numeralValue (cs : List Char) : ℚ :=
  let mantissa := cs.takeWhile (· != 'e')
  let whole := mantissa.takeWhile (· != '.')
  let fraction := (mantissa.dropWhile (· != '.')).drop 1
  Nat.ofDigitChars 10 (whole ++ fraction) 0 *
    10 ^ (powerValue ((cs.dropWhile (· != 'e')).drop 1) - fraction.length)

/-- All characters are digits. -/
def AllDigits (ds : List Char) : Prop := ∀ c ∈ ds, c.isDigit = true

theorem allDigits_toDigits (n : ℕ) : AllDigits (Nat.toDigits 10 n) := fun _ hc =>
  Nat.isDigit_of_mem_toDigits (by decide) (by decide) hc

theorem AllDigits.append {ds es : List Char} (hd : AllDigits ds) (he : AllDigits es) :
    AllDigits (ds ++ es) := by
  intro c hc
  rcases List.mem_append.mp hc with h | h
  · exact hd c h
  · exact he c h

theorem allDigits_zeros (k : ℕ) : AllDigits (List.replicate k '0') := by
  intro c hc
  rw [List.eq_of_mem_replicate hc]
  decide

theorem AllDigits.ne {ds : List Char} (h : AllDigits ds) {mark : Char}
    (hmark : mark.isDigit = false) :
    ∀ c ∈ ds, (c != mark) = true := by
  intro c hc
  have := h c hc
  simp only [bne_iff_ne, ne_eq]
  rintro rfl
  rw [hmark] at this
  cases this

/-- Text up to a mark and behind it. -/
theorem span_mark {ds : List Char} {mark : Char} (h : ∀ c ∈ ds, (c != mark) = true)
    (rest : List Char) :
    (ds ++ mark :: rest).takeWhile (· != mark) = ds ∧
      (ds ++ mark :: rest).dropWhile (· != mark) = mark :: rest := by
  rw [List.takeWhile_append_of_pos h, List.dropWhile_append_of_pos h]
  simp

theorem span_end {ds : List Char} {mark : Char} (h : ∀ c ∈ ds, (c != mark) = true) :
    ds.takeWhile (· != mark) = ds ∧ ds.dropWhile (· != mark) = [] := by
  have ht : (ds ++ []).takeWhile (· != mark) = ds ++ [].takeWhile (· != mark) :=
    List.takeWhile_append_of_pos h
  have hd : (ds ++ []).dropWhile (· != mark) = [].dropWhile (· != mark) :=
    List.dropWhile_append_of_pos h
  simpa using And.intro ht hd

/-- The value of digits with a point and no power. -/
theorem numeralValue_plain {whole fraction : List Char} (hw : AllDigits whole)
    (hf : AllDigits fraction) :
    numeralValue (whole ++ '.' :: fraction) =
      Nat.ofDigitChars 10 (whole ++ fraction) 0 * 10 ^ (-(fraction.length : ℤ)) := by
  have hplain : ∀ c ∈ whole ++ '.' :: fraction, (c != 'e') = true := by
    intro c hc
    rcases List.mem_append.mp hc with h | h
    · exact hw.ne (by decide) c h
    · rcases List.mem_cons.mp h with rfl | h
      · decide
      · exact hf.ne (by decide) c h
  obtain ⟨ht, hd⟩ := span_end hplain
  obtain ⟨hwt, hwd⟩ := span_mark (hw.ne (by decide : '.'.isDigit = false)) fraction
  unfold numeralValue
  simp only [ht, hd, hwt, hwd, List.drop_succ_cons, List.drop_zero, List.drop_nil, powerValue,
    zero_sub]

/-- Appended zeros multiply the value of digits. -/
theorem ofDigitChars_append_zeros (ds : List Char) (k : ℕ) :
    Nat.ofDigitChars 10 (ds ++ List.replicate k '0') 0 = Nat.ofDigitChars 10 ds 0 * 10 ^ k := by
  rw [Nat.ofDigitChars_append, Nat.ofDigitChars_replicate_zero, Nat.mul_comm]

/-- The value of digits whose point stands behind the first `places` of them. -/
theorem numeralValue_positional {ds : List Char} (hds : AllDigits ds) (places : ℤ) :
    numeralValue (positional ds places) =
      Nat.ofDigitChars 10 ds 0 * 10 ^ (places - ds.length) := by
  unfold positional
  split
  · rename_i hle
    have hz : AllDigits (List.replicate (-places).toNat '0' ++ ds) := (allDigits_zeros _).append hds
    have hone : AllDigits ['0'] := allDigits_zeros 1
    have h := numeralValue_plain hone hz
    have hshape : ['0', '.'] ++ List.replicate (-places).toNat '0' ++ ds =
        ['0'] ++ '.' :: (List.replicate (-places).toNat '0' ++ ds) := by simp
    rw [hshape, h]
    have hvalue : Nat.ofDigitChars 10 (['0'] ++ (List.replicate (-places).toNat '0' ++ ds)) 0 =
        Nat.ofDigitChars 10 ds 0 := by
      rw [← List.append_assoc, ← List.replicate_one, List.replicate_append_replicate,
        Nat.ofDigitChars_append, Nat.ofDigitChars_replicate_zero, Nat.mul_zero]
    rw [hvalue]
    congr 2
    simp only [List.length_append, List.length_replicate]
    omega
  · rename_i hpos
    simp only
    by_cases hback : ds.drop places.toNat = []
    · have hlen : ds.length ≤ places.toNat := by simpa using hback
      rw [hback, List.take_of_length_le hlen]
      have hw := hds.append (allDigits_zeros (places.toNat - ds.length))
      have h := numeralValue_plain hw (allDigits_zeros 1)
      simp only [List.isEmpty_nil, if_true]
      rw [List.append_assoc _ ['.'], List.singleton_append, ← List.replicate_one, h,
        List.append_assoc, List.replicate_append_replicate, ofDigitChars_append_zeros]
      simp only [List.length_replicate]
      push_cast
      rw [mul_assoc, ← zpow_natCast, ← zpow_add₀ (by norm_num)]
      congr 2
      push_cast
      omega
    · have hlen : places.toNat < ds.length := by
        by_contra hle
        exact hback (List.drop_eq_nil_of_le (by omega))
      have hsub : places.toNat - ds.length = 0 := by omega
      have hw : AllDigits (ds.take places.toNat) := fun c hc => hds c (List.mem_of_mem_take hc)
      have hf : AllDigits (ds.drop places.toNat) := fun c hc => hds c (List.mem_of_mem_drop hc)
      have h := numeralValue_plain hw hf
      rw [List.take_append_drop] at h
      have hempty : (ds.drop places.toNat).isEmpty = false := by simpa using hback
      rw [hempty, hsub]
      simp only [List.replicate_zero, List.append_nil, Bool.false_eq_true, if_false]
      rw [List.append_assoc, List.singleton_append, h]
      congr 2
      simp only [List.length_drop]
      omega

/-- The power of ten that a scientific numeral names. -/
theorem powerValue_scientific (power : ℤ) (ds : List Char)
    (hds : Nat.ofDigitChars 10 ds 0 = power.natAbs) :
    powerValue ((if power < 0 then '-' else '+') :: ds) = power := by
  split
  · simp only [powerValue, hds]; omega
  · simp only [powerValue, hds]; omega

/-- The value of digits with a power of ten. -/
theorem numeralValue_scientific {d : Char} {ds : List Char} (hds : AllDigits (d :: ds))
    (power : ℤ) :
    numeralValue (scientific (d :: ds) power) =
      Nat.ofDigitChars 10 (d :: ds) 0 * 10 ^ (power - ds.length) := by
  have hd : AllDigits [d] := fun c hc => hds c (by simp at hc; simp [hc])
  have hrest : AllDigits ds := fun c hc => hds c (List.mem_cons_of_mem _ hc)
  have hpower : Nat.ofDigitChars 10 (if (Nat.toDigits 10 power.natAbs).length < 2 then
      '0' :: Nat.toDigits 10 power.natAbs else Nat.toDigits 10 power.natAbs) 0 = power.natAbs := by
    split <;> simp [Nat.ofDigitChars_cons]
  have hsplit : scientific (d :: ds) power =
      (match ds with | [] => [d] | c :: cs => d :: '.' :: c :: cs) ++
      'e' :: ((if power < 0 then '-' else '+') :: if (Nat.toDigits 10 power.natAbs).length < 2 then
        '0' :: Nat.toDigits 10 power.natAbs else Nat.toDigits 10 power.natAbs) := by
    cases ds <;> simp [scientific]
  rw [hsplit]
  cases ds with
  | nil =>
    obtain ⟨ht, hdr⟩ := span_mark (hd.ne (by decide : 'e'.isDigit = false))
      ((if power < 0 then '-' else '+') :: if (Nat.toDigits 10 power.natAbs).length < 2 then
        '0' :: Nat.toDigits 10 power.natAbs else Nat.toDigits 10 power.natAbs)
    obtain ⟨hwt, hwd⟩ := span_end (hd.ne (by decide : '.'.isDigit = false))
    unfold numeralValue
    simp only [ht, hdr, hwt, hwd, List.drop_succ_cons, List.drop_zero, List.drop_nil,
      List.append_nil, powerValue_scientific power _ hpower]
  | cons c cs =>
    have hplain : ∀ x ∈ d :: '.' :: c :: cs, (x != 'e') = true := by
      intro x hx
      rcases List.mem_cons.mp hx with rfl | hx
      · exact hd.ne (by decide) x (by simp)
      · rcases List.mem_cons.mp hx with rfl | hx
        · decide
        · exact hrest.ne (by decide) x hx
    obtain ⟨ht, hdr⟩ := span_mark hplain
      ((if power < 0 then '-' else '+') :: if (Nat.toDigits 10 power.natAbs).length < 2 then
        '0' :: Nat.toDigits 10 power.natAbs else Nat.toDigits 10 power.natAbs)
    obtain ⟨hwt, hwd⟩ := span_mark (hd.ne (by decide : '.'.isDigit = false)) (c :: cs)
    simp only [List.singleton_append] at hwt hwd
    unfold numeralValue
    simp only [ht, hdr, hwt, hwd, List.drop_succ_cons, List.drop_zero, List.singleton_append,
      powerValue_scientific power _ hpower]

/-- Digits are those that remain without the zeros at their end, and these zeros. -/
theorem eq_dropFinalZeros_append (ds : List Char) :
    ∃ k, ds = dropFinalZeros ds ++ List.replicate k '0' := by
  have hz : ds.reverse.takeWhile (· == '0') =
      List.replicate (ds.reverse.takeWhile (· == '0')).length '0' :=
    List.eq_replicate_of_mem fun c hc => by
      simpa using List.all_eq_true.mp List.all_takeWhile c hc
  refine ⟨(ds.reverse.takeWhile (· == '0')).length, ?_⟩
  unfold dropFinalZeros
  rw [← List.reverse_replicate, ← hz, ← List.reverse_append, List.takeWhile_append_dropWhile,
    List.reverse_reverse]

theorem allDigits_dropFinalZeros (n : ℕ) : AllDigits (dropFinalZeros (Nat.toDigits 10 n)) := by
  obtain ⟨k, hk⟩ := eq_dropFinalZeros_append (Nat.toDigits 10 n)
  intro c hc
  refine allDigits_toDigits n c ?_
  rw [hk]
  exact List.mem_append_left _ hc

/-- A positive number keeps a digit. -/
theorem dropFinalZeros_toDigits {n : ℕ} (hn : 0 < n) :
    ∃ c cs, dropFinalZeros (Nat.toDigits 10 n) = c :: cs := by
  obtain ⟨k, hk⟩ := eq_dropFinalZeros_append (Nat.toDigits 10 n)
  cases hds : dropFinalZeros (Nat.toDigits 10 n) with
  | nil =>
    have hvalue : Nat.ofDigitChars 10 (Nat.toDigits 10 n) 0 = n := Nat.ofDigitChars_ten_toDigits
    rw [hk, hds, List.nil_append, Nat.ofDigitChars_replicate_zero] at hvalue
    omega
  | cons c cs => exact ⟨c, cs, rfl⟩

/-- The text of a magnitude stands for its digits. -/
theorem numeralValue_magnitudeText {m : ℕ} {e : ℤ} (hm : m ≠ 0) (hpos : 0 < (shortest m e).digits) :
    numeralValue (magnitudeText m e) = (shortest m e).value := by
  unfold magnitudeText
  rw [if_neg hm]
  simp only
  generalize shortest m e = d at hpos ⊢
  obtain ⟨k, hk⟩ := eq_dropFinalZeros_append (Nat.toDigits 10 d.digits)
  obtain ⟨c, cs, hds⟩ := dropFinalZeros_toDigits hpos
  have hdigits := allDigits_dropFinalZeros d.digits
  have hvalue : Nat.ofDigitChars 10 (Nat.toDigits 10 d.digits) 0 = d.digits :=
    Nat.ofDigitChars_ten_toDigits
  rw [hds] at hk hdigits ⊢
  have hlen : (Nat.toDigits 10 d.digits).length = (c :: cs).length + k := by
    rw [hk, List.length_append, List.length_replicate]
  have hsplit : d.value = Nat.ofDigitChars 10 (c :: cs) 0 * 10 ^ (d.power + k) := by
    unfold Decimals.value
    rw [← hvalue, hk, ofDigitChars_append_zeros, zpow_add₀ (by norm_num)]
    push_cast
    rw [zpow_natCast]
    ring
  rw [hsplit]
  split
  · rw [numeralValue_positional hdigits, hlen]
    congr 2
    push_cast
    ring
  · rw [numeralValue_scientific hdigits, hlen]
    congr 2
    simp only [List.length_cons]
    push_cast
    ring

/-! ## Injectivity -/

theorem value_pos {m : ℕ} {e : ℤ} (hm : m ≠ 0) (hfit : m < 2 ^ 53) : 0 < (shortest m e).value := by
  obtain ⟨hlow, -, -⟩ := holds_bounds (shortest_holds (e := e) hm hfit)
  have hpos : 0 < (intervalOf m e).low := by
    unfold intervalOf
    simp only
    split <;> omega
  have h2 : (0 : ℚ) < (intervalOf m e).low * 2 ^ (e - 2) := by positivity
  exact lt_of_lt_of_le h2 hlow

theorem digits_pos {m : ℕ} {e : ℤ} (hm : m ≠ 0) (hfit : m < 2 ^ 53) :
    0 < (shortest m e).digits := by
  have h := value_pos (e := e) hm hfit
  unfold Decimals.value at h
  rcases Nat.eq_zero_or_pos (shortest m e).digits with h0 | h0
  · rw [h0] at h; simp at h
  · exact h0

theorem numeralValue_zero (e : ℤ) : numeralValue (magnitudeText 0 e) = 0 := by
  have h := numeralValue_plain (allDigits_zeros 1) (allDigits_zeros 1)
  have htext : magnitudeText 0 e = List.replicate 1 '0' ++ '.' :: List.replicate 1 '0' := rfl
  rw [htext, h, List.replicate_append_replicate, Nat.ofDigitChars_replicate_zero]
  simp

/-- **Numbers of one magnitude text are the same.** -/
theorem magnitudeText_injective {m n : ℕ} {e f : ℤ} (hm : Canonical m e) (hn : Canonical n f)
    (h : magnitudeText m e = magnitudeText n f) : m = n ∧ e = f := by
  by_cases hm0 : m = 0 <;> by_cases hn0 : n = 0
  · -- zero is canonical with the least exponent only
    subst hm0 hn0
    have he := hm.normal.resolve_left (by decide)
    have hf := hn.normal.resolve_left (by decide)
    exact ⟨rfl, he.trans hf.symm⟩
  · have hpos := value_pos (e := f) hn0 hn.fits
    rw [← numeralValue_magnitudeText hn0 (digits_pos hn0 hn.fits), ← h, hm0,
      numeralValue_zero] at hpos
    exact absurd hpos (lt_irrefl 0)
  · have hpos := value_pos (e := e) hm0 hm.fits
    rw [← numeralValue_magnitudeText hm0 (digits_pos hm0 hm.fits), h, hn0,
      numeralValue_zero] at hpos
    exact absurd hpos (lt_irrefl 0)
  · -- the value of the common text lies in both intervals
    have hq := shortest_holds (e := e) hm0 hm.fits
    have hr := shortest_holds (e := f) hn0 hn.fits
    rw [← numeralValue_magnitudeText hm0 (digits_pos hm0 hm.fits), h,
      numeralValue_magnitudeText hn0 (digits_pos hn0 hn.fits)] at hq
    exact holds_unique hm.regular hn.regular hq hr

/-! ## The characters of a magnitude -/

/-- The characters of numerals: digits, points, exponents and signs. -/
def IsNumeralChar (c : Char) : Prop := c.isDigit = true ∨ c = '.' ∨ c = 'e' ∨ c = '+' ∨ c = '-'

theorem AllDigits.isNumeralChar {ds : List Char} (h : AllDigits ds) : ∀ c ∈ ds, IsNumeralChar c :=
  fun c hc => .inl (h c hc)

/-- A magnitude is written with a point or with an exponent, in characters of numerals, from a digit
on. -/
structure IsMagnitude (cs : List Char) : Prop where
  head : ∃ d ds, cs = d :: ds ∧ d.isDigit = true
  chars : ∀ c ∈ cs, IsNumeralChar c
  marked : '.' ∈ cs ∨ 'e' ∈ cs

theorem isMagnitude_positional {ds : List Char} (hds : AllDigits ds) (places : ℤ) :
    IsMagnitude (positional ds places) := by
  unfold positional
  split
  · refine ⟨⟨'0', _, rfl, by decide⟩, ?_, .inl (by simp)⟩
    intro c hc
    simp only [List.append_assoc, List.mem_append, List.mem_cons, List.not_mem_nil, or_false] at hc
    rcases hc with (rfl | rfl) | hc | hc
    · exact .inl (by decide)
    · exact .inr (.inl rfl)
    · exact (allDigits_zeros _).isNumeralChar c hc
    · exact hds.isNumeralChar c hc
  · simp only
    have hfront :
        AllDigits (ds.take places.toNat ++ List.replicate (places.toNat - ds.length) '0') :=
      AllDigits.append (fun c hc => hds c (List.mem_of_mem_take hc)) (allDigits_zeros _)
    have hback :
        AllDigits (if (ds.drop places.toNat).isEmpty then ['0'] else ds.drop places.toNat) := by
      split
      · exact allDigits_zeros 1
      · exact fun c hc => hds c (List.mem_of_mem_drop hc)
    generalize hf :
      ds.take places.toNat ++ List.replicate (places.toNat - ds.length) '0' = front at *
    refine ⟨?_, ?_, .inl (by simp)⟩
    · have hlen : front.length = places.toNat := by
        rw [← hf]; simp; omega
      cases front with
      | nil => simp only [List.length_nil] at hlen; omega
      | cons d rest => exact ⟨d, _, rfl, hfront d (by simp)⟩
    · intro c hc
      simp only [List.append_assoc, List.mem_append, List.mem_cons, List.not_mem_nil,
        or_false] at hc
      rcases hc with hc | rfl | hc
      · exact hfront.isNumeralChar c hc
      · exact .inr (.inl rfl)
      · exact hback.isNumeralChar c hc

theorem isMagnitude_scientific {d : Char} {ds : List Char} (hds : AllDigits (d :: ds)) (power : ℤ) :
    IsMagnitude (scientific (d :: ds) power) := by
  have hd : d.isDigit = true := hds d (by simp)
  have hsize := allDigits_toDigits power.natAbs
  have hsign : IsNumeralChar (if power < 0 then '-' else '+') := by
    unfold IsNumeralChar
    split <;> decide
  unfold scientific
  simp only
  refine ⟨?_, ?_, .inr (by simp)⟩
  · cases ds with
    | nil => exact ⟨d, _, rfl, hd⟩
    | cons c cs => exact ⟨d, _, rfl, hd⟩
  · intro c hc
    simp only [List.append_assoc, List.mem_append] at hc
    rcases hc with hc | hc | hc
    · cases ds with
      | nil => exact hds.isNumeralChar c hc
      | cons x xs =>
        simp only [List.mem_cons] at hc
        rcases hc with rfl | rfl | hc
        · exact .inl hd
        · exact .inr (.inl rfl)
        · exact hds.isNumeralChar c (by simp [hc])
    · simp only [List.mem_cons, List.not_mem_nil, or_false] at hc
      rcases hc with rfl | rfl
      · exact .inr (.inr (.inl rfl))
      · exact hsign
    · split at hc
      · rcases List.mem_cons.mp hc with rfl | hc
        · exact .inl (by decide)
        · exact hsize.isNumeralChar c hc
      · exact hsize.isNumeralChar c hc

theorem isMagnitude_magnitudeText {m : ℕ} (e : ℤ) (hfit : m < 2 ^ 53) :
    IsMagnitude (magnitudeText m e) := by
  by_cases hm : m = 0
  · subst hm
    exact ⟨⟨'0', _, rfl, by decide⟩, by simp [magnitudeText, IsNumeralChar],
      .inl (by simp [magnitudeText])⟩
  · unfold magnitudeText
    rw [if_neg hm]
    simp only
    have hpos := digits_pos (e := e) hm hfit
    obtain ⟨c, cs, hds⟩ := dropFinalZeros_toDigits hpos
    have hdigits : AllDigits (c :: cs) := by
      rw [← hds]
      exact allDigits_dropFinalZeros _
    rw [hds]
    split
    · exact isMagnitude_positional hdigits _
    · exact isMagnitude_scientific hdigits _

end Docstore.Binary64
