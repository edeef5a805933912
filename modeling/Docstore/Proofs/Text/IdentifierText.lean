import Docstore.Uuid
import Docstore.Proofs.Text.Numeral
import Docstore.Proofs.Text.QuotedText

/-!
# Identifiers are read back from their texts

The text of an identifier is made of hexadecimal digits and hyphens: no word, brace, blank, sign or
mark that reading passes over stands in it.  Without the hyphens it is the 32 digits of the number.
Whatever text is read, the number has no more digits than that; so what was read once is read back from
its own text.

* `number?_hex` — hexadecimal digits are read as the number they were written for.
* `ofText_text` — an identifier of 128 bits is read back from its text.
* `bits_lt_of_ofText` — what is read from a text has 128 bits at most.
* `ofText_of_ofText` — what is read is read back from its own text.
-/

namespace Docstore.Uuid

open Text

variable {u : Uuid} {s : String} {cs ds : List Char}

/-! ## Characters -/

theorem hexDigit?_digitChar : ∀ d < 16, hexDigit? (Nat.digitChar d) = some d := by decide

/-- No digit is among the characters that reading passes over. -/
theorem digitChar_ne (c : Char) (hc : c ∈ ['-', '+', '_', 'u', 'x', 'X']) :
    ∀ d < 16, Nat.digitChar d ≠ c := by
  have habsent : ∀ d < 16, Nat.digitChar d ∉ ['-', '+', '_', 'u', 'x', 'X'] := by decide
  intro d hd heq
  exact habsent d hd (heq ▸ hc)

theorem isBrace_digitChar : ∀ d < 16, isBrace (Nat.digitChar d) = false := by decide

theorem isBlank_digitChar : ∀ d < 16, isBlank (Nat.digitChar d) = false := by decide

theorem text_toList (u : Uuid) : u.text.toList = (hex 32 u.bits).take 8 ++
    '-' :: (((hex 32 u.bits).drop 8).take 4 ++ '-' :: (((hex 32 u.bits).drop 12).take 4 ++
      '-' :: (((hex 32 u.bits).drop 16).take 4 ++ '-' :: ((hex 32 u.bits).drop 20).take 12))) := by
  simp [text]

theorem text_chars (u : Uuid) : ∀ c ∈ u.text.toList, c = '-' ∨ ∃ d < 16, c = Nat.digitChar d := by
  have hgroup : ∀ start size, ∀ c ∈ ((hex 32 u.bits).drop start).take size,
      ∃ d < 16, c = Nat.digitChar d := fun start size c hc =>
    mem_hex (List.mem_of_mem_drop (List.mem_of_mem_take hc))
  intro c hc
  rw [text_toList] at hc
  simp only [List.mem_append, List.mem_cons] at hc
  rcases hc with hc | hc | hc | hc | hc | hc | hc | hc | hc
  · exact .inr (mem_hex (List.mem_of_mem_take hc))
  · exact .inl hc
  · exact .inr (hgroup _ _ c hc)
  · exact .inl hc
  · exact .inr (hgroup _ _ c hc)
  · exact .inl hc
  · exact .inr (hgroup _ _ c hc)
  · exact .inl hc
  · exact .inr (hgroup _ _ c hc)

/-! ## What counts -/

theorem dropWord_eq_self {first : Char} {word : List Char} (h : first ∉ cs) :
    dropWord (first :: word) 0 cs = cs := by
  induction cs with
  | nil => rfl
  | cons c rest ih =>
    rw [List.mem_cons, not_or] at h
    have hprefix : (first :: word).isPrefixOf (c :: rest) = false := by
      rw [List.isPrefixOf, beq_eq_false_iff_ne.mpr h.1, Bool.false_and]
    rw [dropWord, hprefix, ih h.2]
    rfl

/-- Without the hyphens the groups make up the digits again. -/
theorem filter_text (h : u.bits < 16 ^ 32) : u.text.toList.filter (· != '-') = hex 32 u.bits := by
  have hlength : (hex 32 u.bits).length = 32 := hex_length (by decide) h
  have hdigits : ∀ cs : List Char, (∀ c ∈ cs, ∃ d < 16, c = Nat.digitChar d) →
      cs.filter (· != '-') = cs := by
    intro cs hcs
    refine List.filter_eq_self.mpr fun c hc => ?_
    obtain ⟨d, hd, rfl⟩ := hcs c hc
    exact bne_iff_ne.mpr (digitChar_ne '-' (by decide) d hd)
  have hgroup : ∀ start size, (((hex 32 u.bits).drop start).take size).filter (· != '-') =
      ((hex 32 u.bits).drop start).take size := fun start size =>
    hdigits _ fun c hc => mem_hex (List.mem_of_mem_drop (List.mem_of_mem_take hc))
  have hfirst : ((hex 32 u.bits).take 8).filter (· != '-') = (hex 32 u.bits).take 8 :=
    hdigits _ fun c hc => mem_hex (List.mem_of_mem_take hc)
  rw [text_toList]
  simp only [List.filter_append, List.filter_cons, hgroup, hfirst, bne_self_eq_false,
    Bool.false_eq_true, if_false]
  have hlast : ((hex 32 u.bits).drop 20).take 12 = (hex 32 u.bits).drop 20 :=
    List.take_of_length_le (by rw [List.length_drop, hlength])
  have hjoin : ∀ start size, ((hex 32 u.bits).drop start).take size ++
      (hex 32 u.bits).drop (start + size) = (hex 32 u.bits).drop start := by
    intro start size
    rw [← List.drop_drop, List.take_append_drop]
  rw [hlast, hjoin 16 4, hjoin 12 4, hjoin 8 4, List.take_append_drop]

theorem bare_text (h : u.bits < 16 ^ 32) : bare u.text = hex 32 u.bits := by
  have hword : 'u' ∉ u.text.toList := by
    intro hu
    rcases text_chars u _ hu with hc | ⟨d, hd, hc⟩
    · cases hc
    · exact digitChar_ne 'u' (by decide) d hd hc.symm
  have hbrace : ∀ c ∈ u.text.toList, isBrace c = false := by
    intro c hc
    rcases text_chars u c hc with rfl | ⟨d, hd, rfl⟩
    · rfl
    · exact isBrace_digitChar d hd
  have hurn : dropWord "urn:".toList 0 u.text.toList = u.text.toList := dropWord_eq_self hword
  have huuid : dropWord "uuid:".toList 0 u.text.toList = u.text.toList := dropWord_eq_self hword
  unfold bare
  simp only [hurn, huuid, dropWhile_ends_eq_self hbrace, filter_text h]

/-! ## Digits -/

theorem dropPlus_eq_self (h : '+' ∉ cs) : dropPlus cs = cs := by
  unfold dropPlus
  split
  · exact absurd List.mem_cons_self h
  · rfl

theorem dropMark_eq_self (h : 'x' ∉ cs) (h' : 'X' ∉ cs) : dropMark cs = cs := by
  unfold dropMark
  split
  · rename_i zero x rest
    rw [if_neg]
    rintro ⟨-, rfl | rfl⟩
    · exact h (List.mem_cons_of_mem _ List.mem_cons_self)
    · exact h' (List.mem_cons_of_mem _ List.mem_cons_self)
  · rfl

theorem foldl_hexValue (cs : List Char) :
    (cs.map Json.hexValue).foldl (fun n d => 16 * n + d) 0 = hexNumber cs := by
  unfold hexNumber
  rw [List.foldl_map]

/-- **Hexadecimal digits are read as the number they were written for.** -/
theorem number?_hex {width n : Nat} (hwidth : 0 < width) (h : n < 16 ^ width) :
    number? (hex width n) = some n := by
  have hread : ∀ c ∈ hex width n, c ≠ '_' ∧ anyDigit? c = some (Json.hexValue c) := by
    intro c hc
    obtain ⟨d, hd, rfl⟩ := mem_hex hc
    refine ⟨digitChar_ne '_' (by decide) d hd, ?_⟩
    rw [anyDigit?, hexDigit?_digitChar d hd, hexValue_digitChar d hd]
    rfl
  have hblank : ∀ c ∈ hex width n, isBlank c = false := by
    intro c hc
    obtain ⟨d, hd, rfl⟩ := mem_hex hc
    exact isBlank_digitChar d hd
  have habsent : ∀ c ∈ ['-', '+', '_', 'u', 'x', 'X'], c ∉ hex width n := by
    intro c hc hmem
    obtain ⟨d, hd, heq⟩ := mem_hex hmem
    exact digitChar_ne c hc d hd heq.symm
  have hnil : hex width n ≠ [] := List.ne_nil_of_length_pos (by rwa [hex_length hwidth h])
  have hdigits := leadingDigits?_eq true hread fun _ => hnil
  unfold number?
  rw [dropWhile_eq_self hblank, dropPlus_eq_self (habsent '+' (by decide)),
    dropMark_eq_self (habsent 'x' (by decide)) (habsent 'X' (by decide)), hdigits]
  simp only [foldl_hexValue, hexNumber_hex, List.all_nil, if_true]

/-- **An identifier of 128 bits is read back from its text.** -/
theorem ofText_text (h : u.bits < 16 ^ 32) : ofText u.text = .ok u := by
  unfold ofText
  simp only [bare_text h, hex_length (by decide) h, ne_eq, not_true, if_false,
    number?_hex (by decide) h]

/-! ## What is read -/

theorem hexDigit?_lt {c : Char} {d : Nat} (h : hexDigit? c = some d) : d < 16 := by
  have hsmall : ∀ {low high : Char}, low ≤ c ∧ c ≤ high →
      c.toNat - low.toNat ≤ high.toNat - low.toNat := fun hrange =>
    Nat.sub_le_sub_right hrange.2 _
  unfold hexDigit? at h
  split at h
  · cases h
    exact Nat.lt_of_le_of_lt (hsmall ‹_›) (by decide)
  split at h
  · cases h
    exact Nat.lt_of_le_of_lt (Nat.add_le_add_right (hsmall ‹_›) 10) (by decide)
  split at h
  · cases h
    exact Nat.lt_of_le_of_lt (Nat.add_le_add_right (hsmall ‹_›) 10) (by decide)
  · cases h

theorem anyDigit?_lt {c : Char} {d : Nat} (h : anyDigit? c = some d) : d < 16 := by
  rcases Option.or_eq_some_iff.mp h with h | ⟨-, h⟩
  · exact hexDigit?_lt h
  · obtain ⟨first, hfirst, rfl⟩ := Option.map_eq_some_iff.mp h
    have hrange := List.find?_some hfirst
    simp only [Bool.and_eq_true, decide_eq_true_eq] at hrange
    omega

/-- No more digits are read than there are characters. -/
theorem leadingDigits?_bounds {pending : Bool} {ns : List Nat} {rest : List Char}
    (h : leadingDigits? anyDigit? pending cs = some (ns, rest)) :
    ns.length ≤ cs.length ∧ ∀ d ∈ ns, d < 16 := by
  induction cs generalizing pending ns with
  | nil =>
    rw [leadingDigits?] at h
    split at h
    · cases h
    · cases h
      exact ⟨Nat.le_refl _, by simp⟩
  | cons c cs ih =>
    rw [leadingDigits?] at h
    split at h
    · split at h
      · cases h
      · obtain ⟨hlength, hall⟩ := ih h
        exact ⟨hlength.trans (Nat.le_succ _), hall⟩
    split at h
    · rename_i d hd
      obtain ⟨⟨ds, left⟩, hrest, heq⟩ := Option.map_eq_some_iff.mp h
      cases heq
      obtain ⟨hlength, hall⟩ := ih hrest
      refine ⟨Nat.succ_le_succ hlength, fun e he => ?_⟩
      rcases List.mem_cons.mp he with rfl | he
      · exact anyDigit?_lt hd
      · exact hall e he
    · split at h
      · cases h
      · cases h
        exact ⟨Nat.zero_le _, by simp⟩

theorem foldl_lt {ns : List Nat} (h : ∀ d ∈ ns, d < 16) :
    ns.foldl (fun n d => 16 * n + d) 0 < 16 ^ ns.length := by
  induction ns using List.reverseRecOn with
  | nil => decide
  | append_singleton ns d ih =>
    have hns := ih fun e he => h e (List.mem_append_left _ he)
    have hd := h d (by simp)
    rw [List.foldl_append, List.length_append, List.foldl_cons, List.foldl_nil,
      List.length_singleton, Nat.pow_succ]
    omega

theorem dropPlus_length_le (cs : List Char) : (dropPlus cs).length ≤ cs.length := by
  unfold dropPlus
  split
  · exact Nat.le_succ _
  · exact Nat.le_refl _

theorem dropMark_length_le (cs : List Char) : (dropMark cs).length ≤ cs.length := by
  unfold dropMark
  split
  · split
    · split <;> simp only [List.length_cons] <;> omega
    · exact Nat.le_refl _
  · exact Nat.le_refl _

/-- A number that is read from a text is one of as many hexadecimal digits. -/
theorem number?_lt {n : Nat} (h : number? cs = some n) : n < 16 ^ cs.length := by
  unfold number? at h
  split at h
  · rename_i ns rest hdigits
    split at h
    · cases h
      obtain ⟨hlength, hall⟩ := leadingDigits?_bounds hdigits
      have hbound : ns.length ≤ cs.length := calc ns.length
        _ ≤ (dropMark (dropPlus (cs.dropWhile isBlank))).length := hlength
        _ ≤ (dropPlus (cs.dropWhile isBlank)).length := dropMark_length_le _
        _ ≤ (cs.dropWhile isBlank).length := dropPlus_length_le _
        _ ≤ cs.length := (List.dropWhile_sublist _).length_le
      exact Nat.lt_of_lt_of_le (foldl_lt hall) (Nat.pow_le_pow_right (by decide) hbound)
    · cases h
  · cases h

theorem bits_lt_of_ofText (h : ofText s = .ok u) : u.bits < 16 ^ 32 := by
  unfold ofText at h
  dsimp only at h
  split at h
  · cases h
  · rename_i hlength
    split at h
    · rename_i n hn
      cases h
      rw [← of_not_not hlength]
      exact number?_lt hn
    · cases h

/-- **An identifier that is read is read back from its own text.** -/
theorem ofText_of_ofText (h : ofText s = .ok u) : ofText u.text = .ok u :=
  ofText_text (bits_lt_of_ofText h)

end Docstore.Uuid
