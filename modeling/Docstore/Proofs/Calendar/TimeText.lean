import Docstore.Proofs.Calendar.DateText

/-!
# Timestamps are read back from their texts

Behind the date of a timestamp stands a clock, which ends where an offset starts.  Clock and offset are
read part by part, and what may be left out of a text is zero.

One thing that is written is not read: an offset of less than a second.  No text says such an offset,
and whatever is read from a text names a time that exists; so what was read once is read back from its
own text.

* `clock?_second`, `clock?_offsetChars` — clocks and offsets are read from their texts.
* `readTimestamp_isoText` — a timestamp that exists is read back, with its offset as it is read.
* `isReal_of_readTimestamp` — what is read from a text exists.
* `readTimestamp_of_readTimestamp` — what is read is read back from its own text.
-/

namespace Docstore.Calendar

open Text
open Binary64 (AllDigits)

variable {s : String} {cs rest : List Char} {d : Date} {t : Timestamp}

/-! ## Clocks -/

/-- A clock to the minute, with what is finer behind it. -/
def clockChars (hour minute : Nat) (fine : List Char) : List Char :=
  (padded 2 hour).toList ++ ':' :: ((padded 2 minute).toList ++ fine)

/-- A fraction of a second, which is left out where it is zero. -/
def fractionChars (microsecond : Nat) : List Char :=
  if microsecond = 0 then [] else '.' :: (padded 6 microsecond).toList

/-- The seconds of a clock, and a fraction of one. -/
def secondChars (second microsecond : Nat) : List Char :=
  ':' :: ((padded 2 second).toList ++ fractionChars microsecond)

theorem isClockChar_clockChars (hour minute : Nat) {fine : List Char}
    (h : ∀ c ∈ fine, IsClockChar c) : ∀ c ∈ clockChars hour minute fine, IsClockChar c := by
  intro c hc
  rw [clockChars, List.mem_append, List.mem_cons, List.mem_append] at hc
  rcases hc with hc | hc | hc | hc
  · exact isClockChar_padded c hc
  · exact .inr (.inl hc)
  · exact isClockChar_padded c hc
  · exact h c hc

theorem isClockChar_secondChars (second microsecond : Nat) :
    ∀ c ∈ secondChars second microsecond, IsClockChar c := by
  intro c hc
  rw [secondChars, List.mem_cons, List.mem_append] at hc
  rcases hc with hc | hc | hc
  · exact .inr (.inl hc)
  · exact isClockChar_padded c hc
  · unfold fractionChars at hc
    split at hc
    · cases hc
    · rcases List.mem_cons.mp hc with hc | hc
      · exact .inr (.inr hc)
      · exact isClockChar_padded c hc

variable {hour minute second microsecond : Nat} {next : Char}

theorem follow?_part (width n : Nat) (rest : List Char) :
    follow? true next (':' :: ((padded width n).toList ++ rest)) =
      some (.part ((padded width n).toList ++ rest)) := by
  obtain ⟨c, cs, hcs, -⟩ := padded_cons width n
  rw [hcs]
  rfl

theorem follow?_fraction (width n : Nat) : follow? true next ('.' :: (padded width n).toList) =
    some (.fraction (padded width n).toList) := by
  obtain ⟨c, cs, hcs, -⟩ := padded_cons width n
  rw [hcs]
  rfl

theorem fraction?_padded (h : microsecond < 10 ^ 6) :
    fraction? next (padded 6 microsecond).toList = some (microsecond, next != ending) := by
  have hread := number?_padded (by decide) h []
  rw [List.append_nil] at hread
  unfold fraction?
  simp [length_padded (by decide) h, hread]

theorem clock?_minute (hhour : hour < 10 ^ 2) (hminute : minute < 10 ^ 2) :
    clock? next (clockChars hour minute []) = some (⟨hour, minute, 0, 0⟩, next != ending) := by
  unfold clock? clockChars
  rw [number?_padded (by decide) hhour]
  simp only [Option.bind_eq_bind, Option.bind_some, List.head?_cons, beq_self_eq_true]
  rw [follow?_part]
  simp only [Option.bind_some, number?_padded (by decide) hminute]
  rfl

theorem clock?_second (hhour : hour < 10 ^ 2) (hminute : minute < 10 ^ 2) (hsecond : second < 10 ^ 2)
    (hmicrosecond : microsecond < 10 ^ 6) :
    clock? next (clockChars hour minute (secondChars second microsecond)) =
      some (⟨hour, minute, second, microsecond⟩, next != ending) := by
  unfold clock? clockChars secondChars
  rw [number?_padded (by decide) hhour]
  simp only [Option.bind_eq_bind, Option.bind_some, List.head?_cons, beq_self_eq_true]
  rw [follow?_part]
  simp only [Option.bind_some, number?_padded (by decide) hminute]
  rw [follow?_part]
  simp only [Option.bind_some, number?_padded (by decide) hsecond]
  unfold fractionChars
  split
  · rename_i hzero
    rw [hzero]
    rfl
  · rw [follow?_fraction]
    simp only [Option.bind_some, fraction?_padded hmicrosecond]
    rfl

/-- What tells the end of a clock does not stand in one. -/
theorem IsClockChar.startsOffset {c : Char} (h : IsClockChar c) : startsOffset c = false := by
  refine Bool.eq_false_iff.mpr fun hstart => ?_
  simp only [Calendar.startsOffset, Bool.or_eq_true, beq_iff_eq] at hstart
  rcases hstart with (rfl | rfl) | rfl <;> rcases h with h | h | h <;> cases h

/-- A clock ends where an offset starts. -/
theorem span_clock (zone : List Char) (h : ∀ c ∈ cs, IsClockChar c)
    (hzone : ∀ c ∈ zone.head?, startsOffset c = true) :
    (cs ++ zone).takeWhile (!startsOffset ·) = cs ∧
      (cs ++ zone).dropWhile (!startsOffset ·) = zone := by
  have hall : ∀ c ∈ cs, (!startsOffset c) = true := fun c hc => by
    rw [(h c hc).startsOffset]
    rfl
  rw [List.takeWhile_append_of_pos hall, List.dropWhile_append_of_pos hall]
  cases zone with
  | nil => exact ⟨List.append_nil cs, rfl⟩
  | cons c rest =>
    have hstart : (!startsOffset c) = false := by
      rw [hzone c rfl]
      rfl
    rw [List.takeWhile_cons, List.dropWhile_cons, hstart]
    exact ⟨List.append_nil cs, rfl⟩

theorem time?_local {z : Clock} (h : ∀ c ∈ cs, IsClockChar c)
    (hclock : clock? ending cs = some (z, false)) : time? cs = some (z, none) := by
  obtain ⟨htake, hdrop⟩ := span_clock [] h (by simp)
  rw [List.append_nil] at htake hdrop
  unfold time?
  simp only [htake, hdrop, List.headD_nil, hclock]
  rfl

theorem time?_offset {z zone : Clock} {sign : Char} {surplus : Bool}
    (h : ∀ c ∈ cs, IsClockChar c) (hsign : sign = '+' ∨ sign = '-')
    (hclock : clock? sign cs = some (z, surplus)) (hzone : clock? ending rest = some (zone, false)) :
    time? (cs ++ sign :: rest) = some (z, some (zone.offset (sign == '-'))) := by
  have hstart : startsOffset sign = true := by rcases hsign with rfl | rfl <;> rfl
  obtain ⟨htake, hdrop⟩ := span_clock (sign :: rest) h (by simpa using hstart)
  unfold time?
  simp only [htake, hdrop, List.headD_cons, hclock, Option.bind_eq_bind, Option.bind_some]
  rcases hsign with rfl | rfl <;> simp [hzone]

/-! ## Offsets -/

/-- What is finer than a minute in an offset, which is left out where it is zero. -/
def offsetFine (second microsecond : Nat) : List Char :=
  if second = 0 ∧ microsecond = 0 then [] else secondChars second microsecond

/-- The clock of an offset, without its sign. -/
def offsetChars (x : Int) : List Char :=
  clockChars (x.natAbs / Timestamp.perSecond / 3600) (x.natAbs / Timestamp.perSecond / 60 % 60)
    (offsetFine (x.natAbs / Timestamp.perSecond % 60) (x.natAbs % Timestamp.perSecond))

/-- The sign of an offset. -/
def offsetSign (x : Int) : Char :=
  if x < 0 then '-' else '+'

/-- An offset as it is read: a fraction of a second alone is none. -/
def wholeOffset (x : Int) : Int :=
  if x.natAbs < Timestamp.perSecond then 0 else x

theorem offsetSign_eq (x : Int) : (offsetSign x = '+' ∨ offsetSign x = '-') ∧
    (offsetSign x == '-') = decide (x < 0) := by
  unfold offsetSign
  by_cases h : x < 0
  · simp [h]
  · simp [h]

theorem offsetText_toList (x : Int) :
    (Timestamp.offsetText x).toList = offsetSign x :: offsetChars x := by
  unfold Timestamp.offsetText offsetSign offsetChars clockChars offsetFine secondChars fractionChars
  simp only [String.toList_append]
  by_cases hsign : x < 0 <;>
    by_cases hsecond : x.natAbs / Timestamp.perSecond % 60 = 0 <;>
      by_cases hfraction : x.natAbs % Timestamp.perSecond = 0 <;>
        simp [hsign, hsecond, hfraction]

theorem isClockChar_offsetChars (x : Int) : ∀ c ∈ offsetChars x, IsClockChar c := by
  refine isClockChar_clockChars _ _ fun c hc => ?_
  unfold offsetFine at hc
  split at hc
  · cases hc
  · exact isClockChar_secondChars _ _ c hc

/-- The clock of an offset's size stands for the offset. -/
theorem offset_clock (x : Int) :
    (Clock.mk (x.natAbs / Timestamp.perSecond / 3600) (x.natAbs / Timestamp.perSecond / 60 % 60)
      (x.natAbs / Timestamp.perSecond % 60) (x.natAbs % Timestamp.perSecond)).offset
        (decide (x < 0)) = wholeOffset x := by
  have hsmall : x.natAbs / Timestamp.perSecond = 0 ↔ x.natAbs < Timestamp.perSecond :=
    Nat.div_eq_zero_iff.trans (or_iff_right (by decide))
  have hwhole : x.natAbs / Timestamp.perSecond * Timestamp.perSecond +
      x.natAbs % Timestamp.perSecond = x.natAbs := Nat.div_add_mod' _ _
  unfold Clock.offset wholeOffset
  simp only [← hsmall]
  generalize x.natAbs / Timestamp.perSecond = seconds at hwhole ⊢
  generalize x.natAbs % Timestamp.perSecond = fraction at hwhole ⊢
  have hseconds : (seconds / 3600 * 60 + seconds / 60 % 60) * 60 + seconds % 60 = seconds := by
    omega
  simp only [hseconds, hwhole]
  by_cases hneg : x < 0
  · simp only [hneg, decide_true, if_true]
    split <;> omega
  · simp only [hneg, decide_false, Bool.false_eq_true, if_false]
    split <;> omega

theorem clock?_offsetChars {x : Int} (h : x.natAbs < 86400 * Timestamp.perSecond) :
    ∃ zone, clock? ending (offsetChars x) = some (zone, false) ∧
      zone.offset (decide (x < 0)) = wholeOffset x := by
  refine ⟨_, ?_, offset_clock x⟩
  unfold offsetChars
  have hseconds : x.natAbs / Timestamp.perSecond < 86400 :=
    (Nat.div_lt_iff_lt_mul (by decide)).mpr h
  have hfraction : x.natAbs % Timestamp.perSecond < 10 ^ 6 := Nat.mod_lt _ (by decide)
  generalize x.natAbs / Timestamp.perSecond = seconds at hseconds ⊢
  generalize x.natAbs % Timestamp.perSecond = fraction at hfraction ⊢
  unfold offsetFine
  split
  · rename_i hzero
    rw [hzero.1, hzero.2]
    exact clock?_minute (by omega) (by omega)
  · exact clock?_second (by omega) (by omega) (by omega) hfraction

/-! ## Timestamps -/

/-- A timestamp whose parts name a time that exists. -/
structure IsReal (t : Timestamp) : Prop where
  date : existing t.date = .ok ()
  hour : t.hour ≤ 23
  minute : t.minute ≤ 59
  second : t.second ≤ 59
  microsecond : t.microsecond < Timestamp.perSecond
  offset : ∀ x ∈ t.offset, x.natAbs < 86400 * Timestamp.perSecond

/-- The clock of a timestamp, and its offset. -/
def timeChars (t : Timestamp) : List Char :=
  clockChars t.hour t.minute (secondChars t.second t.microsecond) ++
    t.offset.elim [] fun x => offsetSign x :: offsetChars x

theorem timestamp_toList (t : Timestamp) :
    t.isoText.toList = t.date.isoText.toList ++ 'T' :: timeChars t := by
  have hclock : t.clockText.toList =
      clockChars t.hour t.minute (secondChars t.second t.microsecond) := by
    unfold Timestamp.clockText clockChars secondChars fractionChars
    by_cases hfraction : t.microsecond = 0 <;> simp [hfraction]
  unfold Timestamp.isoText Timestamp.textWith timeChars
  cases t.offset <;> simp [hclock, offsetText_toList]

theorem isIsoChar_timestamp (t : Timestamp) : ∀ c ∈ t.isoText.toList, IsIsoChar c := by
  intro c hc
  rw [timestamp_toList, List.mem_append, List.mem_cons, timeChars, List.mem_append] at hc
  rcases hc with hc | hc | hc | hc
  · exact isIsoChar_isoText _ c hc
  · exact .inr (.inr (.inr hc))
  · exact .inl (isClockChar_clockChars _ _ (isClockChar_secondChars _ _) c hc)
  · cases hoffset : t.offset with
    | none =>
      rw [hoffset] at hc
      cases hc
    | some x =>
      rw [hoffset] at hc
      rcases List.mem_cons.mp hc with hc | hc
      · rcases (offsetSign_eq x).1 with hsign | hsign
        · exact .inr (.inr (.inl (hc.trans hsign)))
        · exact .inr (.inl (hc.trans hsign))
      · exact .inl (isClockChar_offsetChars x c hc)

/-- The time of day of a timestamp that exists is read with its offset. -/
theorem time?_timeChars (h : IsReal t) : time? (timeChars t) =
    some (⟨t.hour, t.minute, t.second, t.microsecond⟩, t.offset.map wholeOffset) := by
  obtain ⟨-, hhour, hminute, hsecond, hmicrosecond, hoffset⟩ := h
  have hchars := isClockChar_clockChars t.hour t.minute
    (isClockChar_secondChars t.second t.microsecond)
  have hclock : ∀ next, clock? next
      (clockChars t.hour t.minute (secondChars t.second t.microsecond)) =
        some (⟨t.hour, t.minute, t.second, t.microsecond⟩, next != ending) := fun next =>
    clock?_second (by omega) (by omega) (by omega) hmicrosecond
  unfold timeChars
  cases hzone : t.offset with
  | none =>
    rw [Option.elim_none, List.append_nil, Option.map_none]
    exact time?_local hchars (hclock ending)
  | some x =>
    obtain ⟨zone, hread, hvalue⟩ := clock?_offsetChars (hoffset x hzone)
    obtain ⟨hsign, hnegative⟩ := offsetSign_eq x
    rw [Option.elim_some, Option.map_some, time?_offset hchars hsign (hclock _) hread, hnegative,
      hvalue]

theorem octetAt_append (cs rest : List Char) (place : Nat) :
    octetAt (cs ++ rest) (cs.length + place) = octetAt rest place := by
  unfold octetAt
  rw [List.getElem?_append_right (Nat.le_add_right _ _), Nat.add_sub_cancel_left]

/-- The date ends behind ten characters: a hyphen stands behind the year, and behind it no week. -/
theorem dateEnd?_isoText (h : existing d = .ok ()) (rest : List Char) :
    dateEnd? (d.isoText.toList ++ rest) = some 10 := by
  have hbounds := bounds_of_existing h
  have hyear : (padded 4 d.year).toList.length = 4 := length_padded (by decide) (by omega)
  obtain ⟨c, cs, hcs, hc⟩ := padded_cons 2 d.month
  have hlength : (d.isoText.toList ++ rest).length ≠ 7 := by
    rw [List.length_append, length_isoText h]
    omega
  obtain ⟨tail, htail⟩ : ∃ tail,
      d.isoText.toList ++ rest = (padded 4 d.year).toList ++ '-' :: c :: tail :=
    ⟨cs ++ '-' :: ((padded 2 d.day).toList ++ rest), by rw [isoText_toList, hcs]; simp⟩
  have hplaces := octetAt_append (padded 4 d.year).toList ('-' :: c :: tail)
  rw [hyear, ← htail] at hplaces
  have hweek : c ≠ 'W' := by
    rintro rfl
    cases hc
  unfold dateEnd?
  have hhyphen : octetAt (d.isoText.toList ++ rest) 4 = '-' := hplaces 0
  have hmonth : octetAt (d.isoText.toList ++ rest) 5 = c := hplaces 1
  simp only [hlength, hhyphen, hmonth, hweek, if_false, if_true, ne_eq, not_false_eq_true]

theorem parts?_isoText (h : IsReal t) : parts? t.isoText.toList =
    some (t.date, ⟨t.hour, t.minute, t.second, t.microsecond⟩, t.offset.map wholeOffset) := by
  have hbounds := bounds_of_existing h.date
  have hdrop : (t.date.isoText.toList ++ 'T' :: timeChars t).drop 10 = 'T' :: timeChars t := by
    rw [← length_isoText h.date, List.drop_left]
  rw [timestamp_toList]
  unfold parts?
  simp only [dateEnd?_isoText h.date, Option.bind_eq_bind, Option.bind_some, hdrop,
    date?_isoText (d := t.date) (by omega) (by omega) (by omega)]
  have hbehind : dropCharacter ('T' :: timeChars t) = timeChars t := rfl
  rw [hbehind, time?_timeChars h]
  rfl

/-- No offset is read as a greater one. -/
theorem natAbs_wholeOffset_le (x : Int) : (wholeOffset x).natAbs ≤ x.natAbs := by
  unfold wholeOffset
  split
  · exact Nat.zero_le _
  · exact Nat.le_refl _

theorem offsetInDay_eq_ok {offset : Option Int} : offsetInDay offset = .ok () ↔
    ∀ x ∈ offset, x.natAbs < 86400 * Timestamp.perSecond := by
  cases offset with
  | none => simp [offsetInDay]
  | some x =>
    unfold offsetInDay
    by_cases h : 86400 * Timestamp.perSecond ≤ x.natAbs
    · simp [h]
    · simp [h, Nat.lt_of_not_le h]

theorem clockInDay_eq_ok {z : Clock} :
    clockInDay z = .ok () ↔ z.hour ≤ 23 ∧ z.minute ≤ 59 ∧ z.second ≤ 59 := by
  unfold clockInDay
  grind

theorem assemble_eq_ok {z : Clock} {offset : Option Int} : assemble d z offset = .ok t ↔
    offsetInDay offset = .ok () ∧ existing d = .ok () ∧ clockInDay z = .ok () ∧
      ⟨d, z.hour, z.minute, z.second, z.microsecond, offset⟩ = t := by
  unfold assemble
  cases offsetInDay offset <;> cases existing d <;> cases clockInDay z <;>
    simp [bind, Except.bind, pure, Except.pure]

/-- **A timestamp that exists is read back from its ISO text**, with its offset as it is read. -/
theorem readTimestamp_isoText (h : IsReal t) :
    readTimestamp t.isoText = .ok { t with offset := t.offset.map wholeOffset } := by
  have hoffset : ∀ x ∈ t.offset.map wholeOffset, x.natAbs < 86400 * Timestamp.perSecond := by
    intro x hx
    obtain ⟨y, hy, rfl⟩ := Option.map_eq_some_iff.mp hx
    exact Nat.lt_of_le_of_lt (natAbs_wholeOffset_le y) (h.offset y hy)
  unfold readTimestamp
  rw [octets_eq_toList fun c hc => (isIsoChar_timestamp t c hc).toNat_lt, parts?_isoText h]
  exact assemble_eq_ok.mpr ⟨offsetInDay_eq_ok.mpr hoffset, h.date,
    clockInDay_eq_ok.mpr ⟨h.hour, h.minute, h.second⟩, rfl⟩

/-! ## What is read exists -/

theorem fraction?_lt {n : Nat} {surplus : Bool} {next : Char}
    (h : fraction? next cs = some (n, surplus)) : n < Timestamp.perSecond := by
  unfold fraction? at h
  simp only [Option.bind_eq_bind, Option.bind_eq_some_iff] at h
  obtain ⟨⟨m, rest⟩, hm, heq⟩ := h
  cases heq
  have hsize : min 6 cs.length + (6 - min 6 cs.length) = 6 := by omega
  calc m * 10 ^ (6 - min 6 cs.length)
      < 10 ^ min 6 cs.length * 10 ^ (6 - min 6 cs.length) :=
        Nat.mul_lt_mul_of_pos_right (number?_lt hm) (Nat.pow_pos (by decide))
    _ = 10 ^ 6 := by rw [← Nat.pow_add, hsize]

theorem clock?_microsecond_lt {z : Clock} {surplus : Bool} {next : Char}
    (h : clock? next cs = some (z, surplus)) : z.microsecond < Timestamp.perSecond := by
  have hfraction : ∀ {hour minute second : Nat} {cs : List Char},
      ((fraction? next cs).bind fun x => some ((⟨hour, minute, second, x.1⟩ : Clock), x.2)) =
        some (z, surplus) → z.microsecond < Timestamp.perSecond := by
    intro hour minute second cs h
    obtain ⟨⟨n, _⟩, hn, heq⟩ := Option.bind_eq_some_iff.mp h
    cases heq
    exact fraction?_lt hn
  have hzero : ∀ {hour minute second : Nat} {more : Bool},
      some ((⟨hour, minute, second, 0⟩ : Clock), more) = some (z, surplus) →
        z.microsecond < Timestamp.perSecond := by
    intro hour minute second more h
    cases h
    exact (by decide : 0 < Timestamp.perSecond)
  unfold clock? at h
  simp only [Option.bind_eq_bind, Option.pure_def] at h
  obtain ⟨⟨hour, rest⟩, -, h⟩ := Option.bind_eq_some_iff.mp h
  obtain ⟨follow, -, h⟩ := Option.bind_eq_some_iff.mp h
  cases follow with
  | ended surplus => exact hzero h
  | fraction cs => exact hfraction h
  | part cs =>
    obtain ⟨⟨minute, rest⟩, -, h⟩ := Option.bind_eq_some_iff.mp h
    obtain ⟨follow, -, h⟩ := Option.bind_eq_some_iff.mp h
    cases follow with
    | ended surplus => exact hzero h
    | fraction cs => exact hfraction h
    | part cs =>
      obtain ⟨⟨second, rest⟩, -, h⟩ := Option.bind_eq_some_iff.mp h
      obtain ⟨follow, -, h⟩ := Option.bind_eq_some_iff.mp h
      cases follow with
      | ended surplus => exact hzero h
      | fraction cs => exact hfraction h
      | part cs => exact hfraction h

/-- An offset that is read is none, or a second at least. -/
theorem wholeOffset_offset (z : Clock) (negative : Bool) :
    wholeOffset (z.offset negative) = z.offset negative := by
  unfold Clock.offset
  dsimp only
  generalize (z.hour * 60 + z.minute) * 60 + z.second = seconds
  by_cases hseconds : seconds = 0
  · rw [if_pos hseconds]
    rfl
  · have hsize : Timestamp.perSecond ≤ seconds * Timestamp.perSecond + z.microsecond :=
      (Nat.le_mul_of_pos_left _ (Nat.pos_of_ne_zero hseconds)).trans (Nat.le_add_right _ _)
    rw [if_neg hseconds]
    unfold wholeOffset
    cases negative
    · exact if_neg (Nat.not_lt.mpr hsize)
    · refine if_neg ?_
      rw [if_pos rfl, Int.natAbs_neg]
      exact Nat.not_lt.mpr hsize

theorem time?_reads {z : Clock} {offset : Option Int} (h : time? cs = some (z, offset)) :
    z.microsecond < Timestamp.perSecond ∧ offset.map wholeOffset = offset := by
  unfold time? at h
  simp only [Option.bind_eq_bind] at h
  obtain ⟨⟨clock, surplus⟩, hclock, h⟩ := Option.bind_eq_some_iff.mp h
  have hmicrosecond := clock?_microsecond_lt hclock
  dsimp only at h
  split at h
  · split at h
    · cases h
    · cases h
      exact ⟨hmicrosecond, rfl⟩
  · split at h
    · cases h
      exact ⟨hmicrosecond, rfl⟩
    · cases h
  · obtain ⟨⟨zone, surplus⟩, -, h⟩ := Option.bind_eq_some_iff.mp h
    dsimp only at h
    split at h
    · cases h
    · cases h
      exact ⟨hmicrosecond, congrArg some (wholeOffset_offset zone _)⟩

theorem parts?_reads {z : Clock} {offset : Option Int} (h : parts? cs = some (d, z, offset)) :
    z.microsecond < Timestamp.perSecond ∧ offset.map wholeOffset = offset := by
  unfold parts? at h
  simp only [Option.bind_eq_bind] at h
  obtain ⟨stop, -, h⟩ := Option.bind_eq_some_iff.mp h
  obtain ⟨e, -, h⟩ := Option.bind_eq_some_iff.mp h
  split at h
  · cases h
    exact ⟨(by decide : 0 < Timestamp.perSecond), rfl⟩
  · obtain ⟨⟨clock, zone⟩, htime, h⟩ := Option.bind_eq_some_iff.mp h
    cases h
    exact time?_reads htime

/-- **What is read from a text exists**, and its offset is none that would be read as another. -/
theorem isReal_of_readTimestamp (h : readTimestamp s = .ok t) :
    IsReal t ∧ t.offset.map wholeOffset = t.offset := by
  unfold readTimestamp at h
  split at h
  · cases h
  · rename_i hparts
    obtain ⟨hmicrosecond, hwhole⟩ := parts?_reads hparts
    obtain ⟨hoffset, hdate, hclock, rfl⟩ := assemble_eq_ok.mp h
    obtain ⟨hhour, hminute, hsecond⟩ := clockInDay_eq_ok.mp hclock
    exact ⟨⟨hdate, hhour, hminute, hsecond, hmicrosecond, offsetInDay_eq_ok.mp hoffset⟩, hwhole⟩

/-- **A timestamp that is read is read back from its own text.** -/
theorem readTimestamp_of_readTimestamp (h : readTimestamp s = .ok t) :
    readTimestamp t.isoText = .ok t := by
  obtain ⟨hreal, hwhole⟩ := isReal_of_readTimestamp h
  rw [readTimestamp_isoText hreal, hwhole]

example : readTimestamp (Timestamp.mk ⟨2024, 1, 1⟩ 9 0 0 0 (some 500000)).isoText =
    .ok ⟨⟨2024, 1, 1⟩, 9, 0, 0, 0, some 0⟩ := by decide +kernel

end Docstore.Calendar
