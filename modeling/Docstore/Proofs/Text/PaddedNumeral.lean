import Docstore.Text.PaddedNumeral

/-!
# What padded numerals say

A padded numeral is made of seven parts, most of which may be missing: blanks, a sign, zeros, a minus
behind them, digits, a point with zeros behind it, and blanks.  Whatever text is read as a number is
made of such parts, and says that number; and no text says two numbers, in whatever way it is divided.

* `Says` — a text says a whole number.
* `Says.unique` — a text says one number at most.
* `Says.of_readPadded` — what is read from a text is what it says.
-/

namespace Docstore.Text

variable {cs whole : List Char} {negative : Bool} {m n : Int}

/-- Whether a character may stand among the digits of a numeral. -/
def isDigitOrGap (c : Char) : Bool :=
  c.isDigit || c == '_'

/-- A text says a whole number.  The minus stands in front of the zeros or behind them. -/
inductive Says : List Char → Int → Prop
  | parts (before sign zeros minus digits fraction after : List Char)
      (hblank : ∀ c ∈ before ++ after, isBlank c = true)
      (hsign : sign = [] ∨ sign = ['+'] ∨ sign = ['-'])
      (hzeros : ∀ c ∈ zeros, c = '0' ∨ c = '_')
      (hminus : minus = [] ∨ minus = ['-'] ∧ zeros ≠ [] ∧ sign ≠ ['-'])
      (hdigits : ∀ c ∈ digits, isDigitOrGap c = true)
      (hsome : digits.filterMap asciiDigit? ≠ [])
      (hfraction : fraction = [] ∨ ∃ n, fraction = '.' :: List.replicate (n + 1) '0') :
      Says (before ++ (sign ++ zeros ++ minus ++ digits ++ fraction) ++ after)
        (signed ('-' ∈ sign ++ minus) (ofDigits (digits.filterMap asciiDigit?)))

/-! ## One number at most -/

/-- The number that is left of a text without blanks and without what follows a point. -/
def saidBy (cs : List Char) : Int :=
  let whole := (cs.filter (!isBlank ·)).takeWhile (· != '.')
  signed ('-' ∈ whole) (ofDigits (whole.filterMap asciiDigit?))

theorem isDigitOrGap_spec {c : Char} (h : isDigitOrGap c = true) :
    isBlank c = false ∧ c ≠ '.' ∧ c ≠ '-' := by
  rcases Bool.or_eq_true_iff.mp h with h | h
  · refine ⟨isBlank_of_isDigit h, ?_, ?_⟩ <;>
    · rintro rfl
      cases h
  · rw [beq_iff_eq.mp h]
    decide

theorem ofDigits_zeros {zeros digits : List Nat} (h : ∀ d ∈ zeros, d = 0) :
    ofDigits (zeros ++ digits) = ofDigits digits := by
  rw [List.eq_replicate_of_mem h, ofDigits, ofDigits, List.foldl_append]
  congr 1
  induction zeros.length with
  | zero => rfl
  | succ k ih => exact ih

/-- Where the parts of a numeral are put together, what the signs and the zeros contribute to its
digits and to its sign is seen part by part. -/
theorem saidBy_parts {before sign zeros minus digits fraction after : List Char}
    (hblank : ∀ c ∈ before ++ after, isBlank c = true)
    (hsign : ∀ c ∈ sign ++ minus, isBlank c = false ∧ c ≠ '.' ∧ asciiDigit? c = none)
    (hzeros : ∀ c ∈ zeros, isBlank c = false ∧ c ≠ '.' ∧ c ≠ '-' ∧ ∀ d ∈ asciiDigit? c, d = 0)
    (hdigits : ∀ c ∈ digits, isBlank c = false ∧ c ≠ '.' ∧ c ≠ '-')
    (hfraction : ∀ c ∈ fraction, isBlank c = false) (hpoint : ∀ c ∈ fraction.head?, c = '.') :
    saidBy (before ++ (sign ++ zeros ++ minus ++ digits ++ fraction) ++ after) =
      signed ('-' ∈ sign ++ minus) (ofDigits (digits.filterMap asciiDigit?)) := by
  have hwhole : ∀ c ∈ sign ++ zeros ++ minus ++ digits, isBlank c = false ∧ c ≠ '.' := by
    intro c hc
    simp only [List.mem_append] at hc
    rcases hc with ((hc | hc) | hc) | hc
    · exact (hsign c (List.mem_append_left _ hc)).imp_right And.left
    · exact (hzeros c hc).imp_right And.left
    · exact (hsign c (List.mem_append_right _ hc)).imp_right And.left
    · exact (hdigits c hc).imp_right And.left
  have hbare : (before ++ (sign ++ zeros ++ minus ++ digits ++ fraction) ++ after).filter
      (!isBlank ·) = sign ++ zeros ++ minus ++ digits ++ fraction := by
    have hbefore : before.filter (!isBlank ·) = [] := List.filter_eq_nil_iff.mpr fun c hc => by
      simp [hblank c (List.mem_append_left _ hc)]
    have hafter : after.filter (!isBlank ·) = [] := List.filter_eq_nil_iff.mpr fun c hc => by
      simp [hblank c (List.mem_append_right _ hc)]
    rw [List.filter_append, List.filter_append, hbefore, hafter, List.nil_append, List.append_nil]
    refine List.filter_eq_self.mpr fun c hc => ?_
    rcases List.mem_append.mp hc with hc | hc
    · simp [(hwhole c hc).1]
    · simp [hfraction c hc]
  have htaken : (sign ++ zeros ++ minus ++ digits ++ fraction).takeWhile (· != '.') =
      sign ++ zeros ++ minus ++ digits := by
    rw [List.takeWhile_append_of_pos fun c hc => bne_iff_ne.mpr (hwhole c hc).2]
    have hnone : fraction.takeWhile (· != '.') = [] := by
      cases fraction with
      | nil => rfl
      | cons c rest =>
        rw [hpoint c rfl]
        rfl
    rw [hnone, List.append_nil]
  have hminus : '-' ∈ sign ++ zeros ++ minus ++ digits ↔ '-' ∈ sign ++ minus := by
    have hzero : '-' ∉ zeros := fun h => (hzeros _ h).2.2.1 rfl
    have hdigit : '-' ∉ digits := fun h => (hdigits _ h).2.2 rfl
    simp [hzero, hdigit]
  have hsigns : (sign.filterMap asciiDigit?) = [] ∧ (minus.filterMap asciiDigit?) = [] := by
    constructor <;> refine List.filterMap_eq_nil_iff.mpr fun c hc => ?_
    · exact (hsign c (List.mem_append_left _ hc)).2.2
    · exact (hsign c (List.mem_append_right _ hc)).2.2
  have hzero : ∀ d ∈ zeros.filterMap asciiDigit?, d = 0 := by
    intro d hd
    obtain ⟨c, hc, hcd⟩ := List.mem_filterMap.mp hd
    exact (hzeros c hc).2.2.2 d hcd
  unfold saidBy
  rw [hbare]
  dsimp only
  rw [htaken, List.filterMap_append, List.filterMap_append, List.filterMap_append, hsigns.1,
    hsigns.2, List.nil_append, List.append_nil, ofDigits_zeros hzero]
  simp only [hminus]

theorem Says.eq_saidBy (h : Says cs n) : n = saidBy cs := by
  cases h with
  | parts before sign zeros minus digits fraction after hblank hsign hzeros hminus hdigits hsome
      hfraction =>
    refine (saidBy_parts hblank (fun c hc => ?_) (fun c hc => ?_)
      (fun c hc => isDigitOrGap_spec (hdigits c hc)) (fun c hc => ?_) (fun c hc => ?_)).symm
    · have hsigned : c = '+' ∨ c = '-' := by
        rcases hsign with rfl | rfl | rfl <;> rcases hminus with rfl | ⟨rfl, -, -⟩ <;> simp_all
      rcases hsigned with rfl | rfl <;> decide
    · rcases hzeros c hc with rfl | rfl <;> decide
    · rcases hfraction with rfl | ⟨k, rfl⟩
      · cases hc
      · rcases List.mem_cons.mp hc with rfl | hc
        · rfl
        · rw [List.eq_of_mem_replicate hc]
          rfl
    · rcases hfraction with rfl | ⟨k, rfl⟩
      · cases hc
      · exact (Option.some.inj hc).symm

/-- **A text says one number at most**, in whatever way it is divided. -/
theorem Says.unique (hm : Says cs m) (hn : Says cs n) : m = n :=
  hm.eq_saidBy.trans hn.eq_saidBy.symm

/-- A text that says a number is not empty. -/
theorem Says.ne_nil (h : Says cs n) : cs ≠ [] := by
  cases h with
  | parts before sign zeros minus digits fraction after hblank hsign hzeros hminus hdigits hsome =>
    intro hnil
    simp only [List.append_eq_nil_iff] at hnil
    rw [hnil.1.2.1.2] at hsome
    exact hsome rfl

/-! ## What is read -/

theorem asciiDigit?_of_isDigit {c : Char} (h : c.isDigit = true) :
    asciiDigit? c = some (c.toNat - '0'.toNat) := by
  simp only [Char.isDigit, Bool.and_eq_true, decide_eq_true_eq, ge_iff_le] at h
  have hrange : '0' ≤ c ∧ c ≤ '9' := h
  rw [asciiDigit?, if_pos hrange]

/-- What is read as a number is nothing but digits, which say it. -/
theorem readDigits_eq_number (h : readDigits negative cs = .number n) :
    (∀ c ∈ cs, c.isDigit = true) ∧ cs.filterMap asciiDigit? ≠ [] ∧
      n = signed negative (ofDigits (cs.filterMap asciiDigit?)) := by
  have hlength : ∀ l : List Char, (∀ c ∈ l, c.isDigit = true) →
      (l.filterMap asciiDigit?).length = l.length := by
    intro l hl
    induction l with
    | nil => rfl
    | cons c rest ih =>
      rw [List.filterMap_cons_some (asciiDigit?_of_isDigit (hl c List.mem_cons_self)), List.length_cons, List.length_cons,
        ih fun c hc => hl c (List.mem_cons_of_mem _ hc)]
  unfold readDigits at h
  dsimp only at h
  split at h
  · cases h
  · cases h
  · rename_i ds hnone hzero
    split at h
    · cases h
    · split at h
      · rename_i hall
        have htake : ∀ c ∈ cs.takeWhile Char.isDigit, c.isDigit = true :=
          List.all_eq_true.mp List.all_takeWhile
        have hdigits := hlength (cs.takeWhile Char.isDigit) htake
        have htaken : cs.takeWhile Char.isDigit = cs :=
          (List.takeWhile_prefix _).eq_of_length (hdigits.symm.trans hall)
        rw [htaken] at h hnone htake
        cases h
        exact ⟨htake, hnone, rfl⟩
      · cases h

/-- What is read without anything taken away is said as it stands. -/
theorem Says.of_readPlain (h : readPlain cs = .number n) : Says cs n := by
  have hsays : ∀ sign digits : List Char, sign = [] ∨ sign = ['+'] ∨ sign = ['-'] →
      readDigits ('-' ∈ sign) digits = .number n → Says (sign ++ digits) n := by
    intro sign digits hsign hread
    obtain ⟨hdigits, hsome, rfl⟩ := readDigits_eq_number hread
    have hparts := Says.parts [] sign [] [] digits [] [] (by simp) hsign (by simp) (.inl rfl)
      (fun c hc => Bool.or_eq_true_iff.mpr (.inl (hdigits c hc))) hsome (.inl rfl)
    simpa using hparts
  unfold readPlain at h
  split at h
  · exact hsays ['-'] _ (.inr (.inr rfl)) h
  · exact hsays [] _ (.inl rfl) h

theorem trim_parts (cs : List Char) : ∃ before after, cs = before ++ trim cs ++ after ∧
    ∀ c ∈ before ++ after, isBlank c = true := by
  let rest := cs.dropWhile isBlank
  refine ⟨cs.takeWhile isBlank, (rest.reverse.takeWhile isBlank).reverse, ?_, fun c hc => ?_⟩
  · have hrest : rest = trim cs ++ (rest.reverse.takeWhile isBlank).reverse := by
      rw [trim, ← List.reverse_append, List.takeWhile_append_dropWhile, List.reverse_reverse]
    rw [List.append_assoc, ← hrest, List.takeWhile_append_dropWhile]
  · rcases List.mem_append.mp hc with hc | hc
    · exact List.all_eq_true.mp List.all_takeWhile c hc
    · exact List.all_eq_true.mp List.all_takeWhile c (List.mem_reverse.mp hc)

theorem splitSign_parts (cs : List Char) : ∃ sign, cs = sign ++ (splitSign cs).2 ∧
    (sign = [] ∨ sign = ['+'] ∨ sign = ['-']) ∧ (splitSign cs).1 = decide ('-' ∈ sign) := by
  unfold splitSign
  split
  · exact ⟨['-'], rfl, .inr (.inr rfl), rfl⟩
  · exact ⟨['+'], rfl, .inr (.inl rfl), rfl⟩
  · exact ⟨[], rfl, .inl rfl, rfl⟩

theorem skipZeros_parts {last : Char} {rest bare : List Char} (h : skipZeros last rest = some bare)
    (hlast : last = '0' ∨ last = '_') :
    ∃ zeros, last :: rest = zeros ++ bare ∧ ∀ c ∈ zeros, c = '0' ∨ c = '_' := by
  induction rest generalizing last with
  | nil =>
    cases h
    exact ⟨[], rfl, by simp⟩
  | cons c rest ih =>
    rw [skipZeros] at h
    split at h
    · rename_i hzero
      obtain ⟨zeros, hsplit, hzeros⟩ := ih h hzero
      refine ⟨last :: zeros, by rw [hsplit, List.cons_append], fun d hd => ?_⟩
      rcases List.mem_cons.mp hd with rfl | hd
      · exact hlast
      · exact hzeros d hd
    · split at h
      · cases h
        exact ⟨[last], rfl, by simpa using hlast⟩
      · split at h
        · cases h
          exact ⟨[], rfl, by simp⟩
        · cases h

/-- Leading zeros are zeros and underscores, and a minus stands behind some of them only. -/
theorem dropZeros_parts {body bare : List Char} (h : dropZeros body = some bare) :
    ∃ zeros, body = zeros ++ bare ∧ (∀ c ∈ zeros, c = '0' ∨ c = '_') ∧
      (bare.head? = some '-' → zeros ≠ []) := by
  cases body with
  | nil => cases h
  | cons c rest =>
    have hfirst : ∀ zeros, c :: rest = zeros ++ bare → c ≠ '-' → bare.head? = some '-' →
        zeros ≠ [] := by
      rintro zeros hsplit hc hbare rfl
      rw [List.nil_append] at hsplit
      rw [← hsplit] at hbare
      exact hc (Option.some.inj hbare)
    rw [dropZeros] at h
    split at h
    · rename_i hzero
      obtain ⟨zeros, hsplit, hzeros⟩ := skipZeros_parts h (.inl hzero)
      exact ⟨zeros, hsplit, hzeros, hfirst zeros hsplit (by rw [hzero]; decide)⟩
    · split at h
      · rename_i hleading
        cases h
        refine ⟨[], rfl, by simp, hfirst [] rfl ?_⟩
        rintro rfl
        cases hleading
      · cases h

theorem dropZeroFraction_parts (bare : List Char) :
    ∃ fraction, bare = dropZeroFraction bare ++ fraction ∧
      (fraction = [] ∨ ∃ n, fraction = '.' :: List.replicate (n + 1) '0') := by
  unfold dropZeroFraction
  split
  · rename_i point fraction hdrop
    split
    · rename_i hzeros
      simp only [Bool.and_eq_true, Bool.not_eq_true', List.isEmpty_eq_false_iff,
        List.all_eq_true, beq_iff_eq] at hzeros
      obtain ⟨hsome, hzeros⟩ := hzeros
      refine ⟨point :: fraction, ?_, .inr ⟨fraction.length - 1, ?_⟩⟩
      · rw [← hdrop, List.takeWhile_append_dropWhile]
      · have hpoint : point = '.' := by
          have hhead := List.head?_dropWhile_not (· != '.') bare
          rw [hdrop] at hhead
          simpa using hhead
        have hlength : fraction.length - 1 + 1 = fraction.length :=
          Nat.succ_pred_eq_of_pos (List.length_pos_iff.mpr hsome)
        rw [hpoint, hlength, ← List.eq_replicate_of_mem hzeros]
    · exact ⟨[], (List.append_nil _).symm, .inl rfl⟩
  · exact ⟨[], (List.append_nil _).symm, .inl rfl⟩

/-- A numeral without its single underscores; one with others is left as it is, and not read. -/
def withoutGaps (whole : List Char) : List Char :=
  if hasSingleUnderscores whole then whole.filter (· != '_') else whole

/-- Where nothing but digits is left without the underscores, there were but digits and
underscores, with the same digits. -/
theorem digits_of_filter {digits : List Char}
    (h : ∀ c ∈ digits.filter (· != '_'), c.isDigit = true) :
    (∀ c ∈ digits, isDigitOrGap c = true) ∧
      (digits.filter (· != '_')).filterMap asciiDigit? = digits.filterMap asciiDigit? := by
  constructor
  · intro c hc
    by_cases hgap : c = '_'
    · rw [hgap]
      rfl
    · have hdigit := h c (List.mem_filter.mpr ⟨hc, bne_iff_ne.mpr hgap⟩)
      rw [isDigitOrGap, hdigit, Bool.true_or]
  · rw [List.filterMap_filter]
    refine congrArg (List.filterMap · digits) (funext fun c => ?_)
    by_cases hgap : c = '_'
    · rw [hgap]
      rfl
    · rw [if_pos (bne_iff_ne.mpr hgap)]

theorem digits_of_withoutGaps (h : ∀ c ∈ withoutGaps whole, c.isDigit = true) :
    (∀ c ∈ whole, isDigitOrGap c = true) ∧
      (withoutGaps whole).filterMap asciiDigit? = whole.filterMap asciiDigit? := by
  unfold withoutGaps at h ⊢
  by_cases hsingle : hasSingleUnderscores whole = true
  · rw [if_pos hsingle] at h ⊢
    exact digits_of_filter h
  · rw [if_neg hsingle] at h ⊢
    exact ⟨fun c hc => Bool.or_eq_true_iff.mpr (.inl (h c hc)), rfl⟩

/-- A minus that is first without the underscores was first before. -/
theorem minus_of_withoutGaps {rest : List Char} (h : withoutGaps whole = '-' :: rest)
    (hrest : ∀ c ∈ rest, c.isDigit = true) : ∃ digits, whole = '-' :: digits ∧
      (∀ c ∈ digits, isDigitOrGap c = true) ∧
      rest.filterMap asciiDigit? = digits.filterMap asciiDigit? := by
  unfold withoutGaps at h
  split at h
  · rename_i hsingle
    cases whole with
    | nil => cases h
    | cons c digits =>
      have hkept : (c != '_') = true := by
        rw [bne_iff_ne]
        rintro rfl
        cases hsingle
      rw [List.filter_cons, if_pos hkept] at h
      obtain ⟨rfl, rfl⟩ := List.cons.inj h
      obtain ⟨hdigits, hsame⟩ := digits_of_filter hrest
      exact ⟨digits, rfl, hdigits, hsame⟩
  · exact ⟨rest, h, fun c hc => Bool.or_eq_true_iff.mpr (.inl (hrest c hc)), rfl⟩

theorem readStripped_eq (cs : List Char) :
    readStripped cs = match dropZeros (splitSign (trim cs)).2 with
      | none => .notNumeral
      | some bare =>
        match withoutGaps (dropZeroFraction bare) with
        | '-' :: rest => if (splitSign (trim cs)).1 then .notNumeral else readDigits true rest
        | digits => readDigits (splitSign (trim cs)).1 digits := rfl

/-- **What is read of a stripped text** is what its parts say. -/
theorem Says.of_readStripped (h : readStripped cs = .number n) : Says cs n := by
  obtain ⟨before, after, hcs, hblank⟩ := trim_parts cs
  obtain ⟨sign, hbody, hsign, hnegative⟩ := splitSign_parts (trim cs)
  rw [readStripped_eq] at h
  split at h
  · cases h
  · rename_i bare hdrop
    obtain ⟨zeros, hzeros, hzero, hbehind⟩ := dropZeros_parts hdrop
    obtain ⟨fraction, hbare, hfraction⟩ := dropZeroFraction_parts bare
    generalize dropZeroFraction bare = whole at h hbare
    split at h
    · -- a minus stands behind the zeros
      rename_i rest hwhole
      split at h
      · cases h
      · rename_i hplus
        obtain ⟨hrest, hsome, rfl⟩ := readDigits_eq_number h
        obtain ⟨digits, rfl, hdigits, hsame⟩ := minus_of_withoutGaps hwhole hrest
        rw [hsame] at hsome ⊢
        have hsigned : sign ≠ ['-'] := by
          rintro rfl
          exact hplus hnegative
        have hfirst : zeros ≠ [] := hbehind (by rw [hbare]; rfl)
        have hparts := Says.parts before sign zeros ['-'] digits fraction after hblank hsign hzero
          (.inr ⟨rfl, hfirst, hsigned⟩) hdigits hsome hfraction
        rw [hcs, hbody, hzeros, hbare]
        simpa using hparts
    · obtain ⟨hrest, hsome, rfl⟩ := readDigits_eq_number h
      obtain ⟨hdigits, hsame⟩ := digits_of_withoutGaps hrest
      rw [hsame] at hsome ⊢
      have hparts := Says.parts before sign zeros [] whole fraction after hblank hsign hzero
        (.inl rfl) hdigits hsome hfraction
      rw [hnegative, hcs, hbody, hzeros, hbare]
      simpa using hparts

/-- **What is read from a text is what it says.** -/
theorem Says.of_readPadded (h : readPadded cs = .number n) : Says cs n := by
  unfold readPadded at h
  split at h
  · split at h
    · cases h
    · exact .of_readStripped h
  · exact .of_readPlain h

end Docstore.Text
