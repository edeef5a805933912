import Docstore.Calendar.Reading
import Docstore.Proofs.Text.Numeral
import Docstore.Proofs.Text.PaddedNumeral

/-!
# Dates are read back from their texts

The text of a date is in ASCII, so that its octets are its characters, and each of its parts has a
width of its own.  It is therefore read part by part.  What can be read from any text at all is a date
that exists, and so whatever was read once is read back from its own text.

* `octets_eq_toList` — a text in ASCII is read character by character.
* `number?_padded` — a number of a fixed width is taken off the front of a text.
* `readDate_isoText` — a date that exists is read back from its text.
* `readDate_of_readDate` — what is read is read back from its own text.
-/

namespace Docstore.Calendar

open Text
open Binary64 (AllDigits)

variable {s : String} {cs rest : List Char} {d : Date} {t : Timestamp}

/-! ## Octets -/

/-- The octets of a text in ASCII are its characters. -/
theorem octets_eq_toList (h : ∀ c ∈ s.toList, c.toNat < 0x80) : octets s = s.toList := by
  have hchar : ∀ c : Char, c.toNat < 0x80 →
      (String.utf8EncodeChar c).map (fun o => Char.ofNat o.toNat) = [c] := by
    intro c hc
    have hle : c.val.toNat ≤ 0x7F := Nat.le_of_lt_succ hc
    have hbyte : (UInt8.ofNat c.val.toNat).toNat = c.toNat :=
      UInt8.toNat_ofNat_of_lt' (hc.trans (by decide))
    simp only [String.utf8EncodeChar, hle, if_true, List.map_cons, List.map_nil, hbyte,
      Char.ofNat_toNat]
  unfold octets
  generalize s.toList = cs at h
  induction cs with
  | nil => rfl
  | cons c rest ih =>
    rw [List.flatMap_cons, hchar c (h c List.mem_cons_self),
      ih fun d hd => h d (List.mem_cons_of_mem c hd)]
    rfl

/-- The characters of a clock. -/
def IsClockChar (c : Char) : Prop :=
  c.isDigit = true ∨ c = ':' ∨ c = '.'

/-- The characters of an ISO text. -/
def IsIsoChar (c : Char) : Prop :=
  IsClockChar c ∨ c = '-' ∨ c = '+' ∨ c = 'T'

theorem IsIsoChar.toNat_lt {c : Char} (h : IsIsoChar c) : c.toNat < 0x80 := by
  rcases h with (h | rfl | rfl) | rfl | rfl | rfl
  · obtain ⟨-, hhigh⟩ := Char.isDigit_iff_toNat.mp h
    exact Nat.lt_of_le_of_lt hhigh (by decide)
  all_goals decide

theorem isClockChar_padded {width n : Nat} : ∀ c ∈ (padded width n).toList, IsClockChar c :=
  fun c hc => .inl (allDigits_padded width n c hc)

/-! ## Numbers -/

theorem number?_digits {ds : List Char} (rest : List Char) (h : AllDigits ds) :
    number? ds.length (ds ++ rest) = some (Nat.ofDigitChars 10 ds 0, rest) := by
  induction ds with
  | nil => rfl
  | cons c ds ih =>
    have hc := asciiDigit?_of_isDigit (h c List.mem_cons_self)
    have hds := ih fun d hd => h d (List.mem_cons_of_mem c hd)
    rw [List.length_cons, List.cons_append, number?, hc, hds, Nat.ofDigitChars_cons,
      Nat.ofDigitChars_eq_ofDigitChars_zero]
    simp [Nat.mul_comm, ← Nat.ofDigitChars_eq_ofDigitChars_zero]

/-- A number of a fixed width is taken off the front of a text. -/
theorem number?_padded {width n : Nat} (hpos : 0 < width) (h : n < 10 ^ width)
    (rest : List Char) : number? width ((padded width n).toList ++ rest) = some (n, rest) := by
  have hread := number?_digits rest (allDigits_padded width n)
  rwa [length_padded hpos h, ofDigitChars_padded] at hread

/-- A number that is read has no more digits than were asked for. -/
theorem number?_lt {count n : Nat} (h : number? count cs = some (n, rest)) : n < 10 ^ count := by
  induction count generalizing cs n with
  | zero =>
    cases h
    decide
  | succ count ih =>
    cases cs with
    | nil => cases h
    | cons c cs =>
      simp only [number?, Option.bind_eq_bind, Option.bind_eq_some_iff] at h
      obtain ⟨d, hd, ⟨m, after⟩, hm, heq⟩ := h
      cases heq
      have hlow := ih hm
      have hdigit : d < 10 := by
        unfold asciiDigit? at hd
        split at hd
        · rename_i hrange
          cases hd
          have hhigh : c.toNat ≤ 57 := hrange.2
          simp only [Char.reduceToNat]
          omega
        · cases hd
      calc d * 10 ^ count + m < d * 10 ^ count + 10 ^ count := by omega
        _ = (d + 1) * 10 ^ count := by rw [Nat.add_mul, Nat.one_mul]
        _ ≤ 10 * 10 ^ count := Nat.mul_le_mul_right _ hdigit
        _ = 10 ^ (count + 1) := by rw [Nat.pow_succ, Nat.mul_comm]

/-! ## Dates -/

theorem isoText_toList (d : Date) : d.isoText.toList = (padded 4 d.year).toList ++
    '-' :: ((padded 2 d.month).toList ++ '-' :: (padded 2 d.day).toList) := by
  simp [Date.isoText]

theorem isIsoChar_isoText (d : Date) : ∀ c ∈ d.isoText.toList, IsIsoChar c := by
  intro c hc
  rw [isoText_toList, List.mem_append, List.mem_cons, List.mem_append, List.mem_cons] at hc
  rcases hc with hc | hc | hc | hc | hc
  · exact .inl (isClockChar_padded c hc)
  · exact .inr (.inl hc)
  · exact .inl (isClockChar_padded c hc)
  · exact .inr (.inl hc)
  · exact .inl (isClockChar_padded c hc)

/-- The month starts with a digit, so that no week is read. -/
theorem date?_isoText (hyear : d.year < 10 ^ 4) (hmonth : d.month < 10 ^ 2)
    (hday : d.day < 10 ^ 2) (size : Nat) (rest : List Char) :
    date? size (d.isoText.toList ++ rest) = some d := by
  obtain ⟨c, cs, hcs, hc⟩ := padded_cons 2 d.month
  have hmonths := number?_padded (by decide) hmonth ('-' :: ((padded 2 d.day).toList ++ rest))
  have hweek : c ≠ 'W' := by
    rintro rfl
    cases hc
  rw [hcs] at hmonths
  rw [isoText_toList, List.append_assoc, List.cons_append, List.append_assoc, List.cons_append, hcs]
  unfold date?
  rw [number?_padded (by decide) hyear]
  simp only [Option.bind_eq_bind, Option.bind_some, List.head?_cons, beq_self_eq_true, dropDash?,
    if_true]
  split
  · rename_i h
    exact absurd (List.cons.inj h).1 hweek
  · rw [hmonths]
    simp only [Option.bind_some, number?_padded (by decide) hday]
    rfl

/-- No month is longer than 31 days. -/
theorem monthLength_le (year : Nat) {month : Nat} (h : month ≤ 12) :
    Date.daysBefore year (month + 1) - Date.daysBefore year month ≤ 31 := by
  have hall : ∀ leap : Bool, ∀ month ≤ 12,
      let lengths := [31, if leap then 29 else 28, 31, 30, 31, 30, 31, 31, 30, 31, 30, 31]
      (lengths.take month).foldl (· + ·) 0 - (lengths.take (month - 1)).foldl (· + ·) 0 ≤ 31 := by
    decide
  exact hall (Date.isLeap year) month h

/-- The parts of a date that exists. -/
theorem bounds_of_existing (h : existing d = .ok ()) :
    1 ≤ d.year ∧ d.year ≤ 9999 ∧ 1 ≤ d.month ∧ d.month ≤ 12 ∧ 1 ≤ d.day ∧ d.day ≤ 31 := by
  unfold existing at h
  split at h
  · cases h
  split at h
  · cases h
  split at h
  · cases h
  rename_i hyear hmonth hday
  have hrange : d.month ≤ 12 := by omega
  have hlength := monthLength_le d.year hrange
  omega

theorem length_isoText (h : existing d = .ok ()) : d.isoText.toList.length = 10 := by
  have hbounds := bounds_of_existing h
  rw [isoText_toList, List.length_append, List.length_cons, List.length_append, List.length_cons,
    length_padded (by decide) (by omega), length_padded (by decide) (by omega),
    length_padded (by decide) (by omega)]

/-- **A date that exists is read back from its ISO text.** -/
theorem readDate_isoText (h : existing d = .ok ()) : readDate d.isoText = .ok d := by
  have hbounds := bounds_of_existing h
  have hdate := date?_isoText (d := d) (by omega) (by omega) (by omega) 10 []
  rw [List.append_nil] at hdate
  unfold readDate
  rw [octets_eq_toList fun c hc => (isIsoChar_isoText d c hc).toNat_lt]
  simp [length_isoText h, hdate, h, bind, Except.bind, pure, Except.pure]

/-- A date that is read from a text exists. -/
theorem existing_of_readDate (h : readDate s = .ok d) : existing d = .ok () := by
  unfold readDate at h
  dsimp only at h
  split at h
  · cases h
  · rename_i e _
    cases hexists : existing e with
    | error m =>
      rw [hexists] at h
      cases h
    | ok u =>
      rw [hexists] at h
      cases h
      exact hexists

/-- **A date that is read is read back from its own text.** -/
theorem readDate_of_readDate (h : readDate s = .ok d) : readDate d.isoText = .ok d :=
  readDate_isoText (existing_of_readDate h)

end Docstore.Calendar
