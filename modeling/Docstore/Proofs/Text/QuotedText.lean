import Docstore.Proofs.Json.ScalarText

/-!
# Quoted text determines the text

Quoted text is read back character by character.  A backslash tells what follows it: a character as
it is, one of three letters, or a mark and as many hexadecimal digits as the mark stands for.  So the
quote in use need not be known to read a character, and no character is written like the quote that
ends the text.

* `hexNumber_hex`, `mem_hex` — hexadecimal digits in a fixed count are read back.
* `quoted_append_injective` — quoted text, with anything behind it, determines the text and what is
  behind it.
-/

namespace Docstore.Text

/-! ## Hexadecimal digits -/

/-- The number that hexadecimal digits in small letters stand for. -/
def hexNumber (cs : List Char) : Nat :=
  cs.foldl (fun n c => 16 * n + Json.hexValue c) 0

theorem hexValue_digitChar : ∀ d < 16, Json.hexValue (Nat.digitChar d) = d := by decide

theorem hexNumber_append (cs : List Char) (c : Char) :
    hexNumber (cs ++ [c]) = 16 * hexNumber cs + Json.hexValue c := by
  simp [hexNumber, List.foldl_append]

theorem hexNumber_toDigits (n : Nat) : hexNumber (Nat.toDigits 16 n) = n := by
  induction n using Nat.strongRecOn with
  | ind n ih =>
    rw [Nat.toDigits_eq_if (by decide)]
    split
    · rename_i hn
      exact (Nat.zero_add _).trans (hexValue_digitChar n hn)
    · rw [hexNumber_append, ih (n / 16) (by omega),
        hexValue_digitChar _ (Nat.mod_lt n (by decide))]
      omega

theorem hexNumber_zeros (k : Nat) (cs : List Char) :
    hexNumber (List.replicate k '0' ++ cs) = hexNumber cs := by
  induction k with
  | zero => rfl
  | succ k ih => exact ih

/-- **Hexadecimal digits are read back**, however many zeros stand in front of them. -/
theorem hexNumber_hex (width n : Nat) : hexNumber (hex width n) = n := by
  rw [hex, hexNumber_zeros, hexNumber_toDigits]

theorem hex_length {width n : Nat} (hwidth : 0 < width) (hn : n < 16 ^ width) :
    (hex width n).length = width := by
  have hdigits := (Nat.length_toDigits_le_iff (b := 16) (by decide) hwidth).mpr hn
  rw [hex, List.length_append, List.length_replicate]
  omega

/-- Hexadecimal digits are the sixteen digits in small letters. -/
theorem mem_hex {width n : Nat} {c : Char} (h : c ∈ hex width n) :
    ∃ d < 16, c = Nat.digitChar d := by
  have hdigits : ∀ n, c ∈ Nat.toDigits 16 n → ∃ d < 16, c = Nat.digitChar d := by
    intro n
    induction n using Nat.strongRecOn with
    | ind n ih =>
      rw [Nat.toDigits_eq_if (by decide)]
      split
      · rename_i hn
        exact fun hc => ⟨n, hn, List.mem_singleton.mp hc⟩
      · intro hc
        rcases List.mem_append.mp hc with hc | hc
        · exact ih (n / 16) (by omega) hc
        · exact ⟨n % 16, Nat.mod_lt n (by decide), List.mem_singleton.mp hc⟩
  rcases List.mem_append.mp h with h | h
  · exact ⟨0, by decide, List.eq_of_mem_replicate h⟩
  · exact hdigits n h

/-! ## Characters -/

/-- How many hexadecimal digits stand behind a mark. -/
def hexWidth? (mark : Char) : Option Nat :=
  if mark = 'x' then some 2 else if mark = 'u' then some 4 else if mark = 'U' then some 8 else none

/-- The first character of the inside of quoted text, and what follows. -/
def unescape : List Char → Option (Char × List Char)
  | '\\' :: mark :: rest =>
    match hexWidth? mark with
    | some width => some (Char.ofNat (hexNumber (rest.take width)), rest.drop width)
    | none =>
      let c := if mark = 'n' then '\n' else if mark = 'r' then '\r'
        else if mark = 't' then '\t' else mark
      some (c, rest)
  | c :: rest => some (c, rest)
  | [] => none

theorem unescape_of_ne {c : Char} (hc : c ≠ '\\') (rest : List Char) :
    unescape (c :: rest) = some (c, rest) := by
  rw [unescape.eq_def]
  split
  · rename_i h
    exact absurd (List.cons.inj h).1 hc
  · rename_i h
    cases h
    rfl
  · rename_i h
    cases h

/-- A character that is written by its code point is read back. -/
theorem unescape_hex {mark c : Char} {width : Nat} (hmark : hexWidth? mark = some width)
    (hwidth : 0 < width) (hc : c.toNat < 16 ^ width) (rest : List Char) :
    unescape ('\\' :: mark :: (hex width c.toNat ++ rest)) = some (c, rest) := by
  have hlength := hex_length hwidth hc
  simp only [unescape, hmark]
  rw [List.take_left' hlength, List.drop_left' hlength, hexNumber_hex, Char.ofNat_toNat]

/-- **Every character is read back**, whichever quote is in use. -/
theorem unescape_escaped {quote : Char} (hquote : quote = '\'' ∨ quote = '"') (c : Char)
    (rest : List Char) : unescape (escaped quote c ++ rest) = some (c, rest) := by
  have hbound : c.toNat < 16 ^ 8 := by
    have hvalid := c.valid
    simp only [UInt32.isValidChar, Nat.isValidChar] at hvalid
    simp only [Char.toNat]
    omega
  unfold escaped
  split
  · rename_i h
    rcases h with rfl | rfl
    · rcases hquote with rfl | rfl <;> rfl
    · rfl
  split
  · subst_vars
    rfl
  split
  · subst_vars
    rfl
  split
  · subst_vars
    rfl
  rename_i hc _ _ _
  split
  · exact unescape_of_ne (fun h => hc (.inr h)) rest
  split
  · rename_i h
    exact unescape_hex rfl (by decide) h rest
  split
  · rename_i h
    exact unescape_hex rfl (by decide) h rest
  · exact unescape_hex rfl (by decide) hbound rest

theorem escaped_injective {quote c d : Char} (hquote : quote = '\'' ∨ quote = '"')
    {r s : List Char} (h : escaped quote c ++ r = escaped quote d ++ s) : c = d ∧ r = s := by
  have hread := unescape_escaped hquote c r
  rw [h, unescape_escaped hquote] at hread
  simp only [Option.some.injEq, Prod.mk.injEq] at hread
  exact ⟨hread.1.symm, hread.2.symm⟩

/-- No character is written like the quote that ends a text. -/
theorem escaped_ne_quote {quote : Char} (hquote : quote = '\'' ∨ quote = '"') (c : Char)
    (r s : List Char) : escaped quote c ++ r ≠ quote :: s := by
  intro h
  have hslash : quote ≠ '\\' := by rcases hquote with rfl | rfl <;> decide
  have hread := unescape_escaped hquote c r
  rw [h, unescape_of_ne hslash] at hread
  obtain ⟨rfl, -⟩ := Prod.mk.inj (Option.some.inj hread)
  rw [escaped, if_pos (.inl rfl)] at h
  exact hslash (List.cons.inj h).1.symm

theorem escaped_flatMap_injective {quote : Char} (hquote : quote = '\'' ∨ quote = '"') :
    ∀ {cs ds : List Char} {r s : List Char}, cs.flatMap (escaped quote) ++ quote :: r =
      ds.flatMap (escaped quote) ++ quote :: s → cs = ds ∧ r = s
  | [], [], _, _, h => ⟨rfl, (List.cons.inj h).2⟩
  | [], d :: ds, _, _, h => by
    rw [List.flatMap_cons, List.append_assoc] at h
    exact absurd h.symm (escaped_ne_quote hquote d _ _)
  | c :: cs, [], _, _, h => by
    rw [List.flatMap_cons, List.append_assoc] at h
    exact absurd h (escaped_ne_quote hquote c _ _)
  | c :: cs, d :: ds, _, _, h => by
    rw [List.flatMap_cons, List.flatMap_cons, List.append_assoc, List.append_assoc] at h
    obtain ⟨rfl, hrest⟩ := escaped_injective hquote h
    obtain ⟨rfl, hr⟩ := escaped_flatMap_injective hquote hrest
    exact ⟨rfl, hr⟩

/-! ## Texts -/

theorem quoteFor_cases (cs : List Char) : quoteFor cs = '\'' ∨ quoteFor cs = '"' := by
  unfold quoteFor
  split
  · exact .inr rfl
  · exact .inl rfl

theorem quoted_toList (s : String) : (quoted s).toList =
    quoteFor s.toList :: (s.toList.flatMap (escaped (quoteFor s.toList)) ++
      [quoteFor s.toList]) := by
  rw [quoted, String.toList_ofList, List.cons_append]

/-- **Quoted text determines the text**, and what stands behind it. -/
theorem quoted_append_injective {s t : String} {r u : List Char}
    (h : (quoted s).toList ++ r = (quoted t).toList ++ u) : s = t ∧ r = u := by
  rw [quoted_toList, quoted_toList, List.cons_append, List.cons_append, List.append_assoc,
    List.append_assoc, List.singleton_append, List.singleton_append] at h
  obtain ⟨hquote, hinside⟩ := List.cons.inj h
  rw [hquote] at hinside
  obtain ⟨hchars, hrest⟩ := escaped_flatMap_injective (quoteFor_cases t.toList) hinside
  exact ⟨String.toList_injective hchars, hrest⟩

end Docstore.Text
