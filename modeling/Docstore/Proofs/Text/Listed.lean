import Docstore.Proofs.Json.ScalarText

/-!
# Texts in lists

Where texts stand side by side, what tells them apart are the characters that none of them holds: a
text of one class of characters ends at the first other character, and texts without commas are found
again between the commas of a list.

* `append_span_injective`, `append_mark_injective` — where a text ends.
* `listed_injective` — a list in brackets determines its texts, and what stands behind it.
* `numbers_injective` — a list of numbers determines the numbers.
-/

namespace Docstore.Text

/-- Texts of one class of characters end at the first other character. -/
theorem append_span_injective {p : Char → Prop} {a b : Char} (ha : ¬p a) (hb : ¬p b) :
    ∀ {u v r s : List Char}, (∀ c ∈ u, p c) → (∀ c ∈ v, p c) → u ++ a :: r = v ++ b :: s →
      u = v ∧ a = b ∧ r = s
  | [], [], _, _, _, _, h => ⟨rfl, List.cons.inj h⟩
  | [], c :: v, _, _, _, hv, h => by
    refine absurd (hv c List.mem_cons_self) ?_
    rwa [← (List.cons.inj h).1]
  | c :: u, [], _, _, hu, _, h => by
    refine absurd (hu c List.mem_cons_self) ?_
    rwa [(List.cons.inj h).1]
  | c :: u, d :: v, _, _, hu, hv, h => by
    obtain ⟨hc, hrest⟩ := List.cons.inj h
    obtain ⟨rfl, hab, hrs⟩ := append_span_injective ha hb
      (fun x hx => hu x (List.mem_cons_of_mem c hx)) (fun x hx => hv x (List.mem_cons_of_mem d hx))
      hrest
    exact ⟨by rw [hc], hab, hrs⟩

/-- Texts without a mark end where the mark stands. -/
theorem append_mark_injective {mark : Char} {u v r s : List Char} (hu : mark ∉ u) (hv : mark ∉ v)
    (h : u ++ mark :: r = v ++ mark :: s) : u = v ∧ r = s := by
  have hmark : ¬mark ≠ mark := fun hne => hne rfl
  obtain ⟨huv, -, hrs⟩ := append_span_injective (p := (· ≠ mark)) hmark hmark
    (fun c hc hcm => hu (hcm ▸ hc)) (fun c hc hcm => hv (hcm ▸ hc)) h
  exact ⟨huv, hrs⟩

/-! ## Lists -/

/-- The texts of a list behind the first one. -/
def listedRest (ts : List (List Char)) : List Char :=
  ts.flatMap fun t => ',' :: ' ' :: t

/-- The characters of texts that are joined by a separator. -/
theorem toList_intercalate (separator t : String) (ts : List String) :
    (separator.intercalate (t :: ts)).toList =
      t.toList ++ ts.flatMap fun u => separator.toList ++ u.toList := by
  induction ts generalizing t with
  | nil => simp
  | cons u rest ih =>
    rw [String.intercalate_cons_cons, String.toList_append, String.toList_append, ih u]
    simp

theorem toList_listed (t : String) (ts : List String) : (", ".intercalate (t :: ts)).toList =
    t.toList ++ listedRest (ts.map String.toList) := by
  rw [toList_intercalate, listedRest, List.flatMap_map]
  rfl

/-- Whether a character stands neither between the texts of a list nor at its end. -/
def IsInner (c : Char) : Prop :=
  c ≠ ',' ∧ c ≠ ')'

instance (c : Char) : Decidable (IsInner c) :=
  inferInstanceAs (Decidable (_ ∧ _))

/-- **A list in brackets determines its texts**, and what stands behind it. -/
theorem listed_injective : ∀ {ts us : List (List Char)} {t u r s : List Char},
    (∀ x ∈ t :: ts, ∀ c ∈ x, IsInner c) → (∀ x ∈ u :: us, ∀ c ∈ x, IsInner c) →
    t ++ listedRest ts ++ ')' :: r = u ++ listedRest us ++ ')' :: s → t :: ts = u :: us ∧ r = s := by
  have hcomma : ¬IsInner ',' := fun h => h.1 rfl
  have hend : ¬IsInner ')' := fun h => h.2 rfl
  intro ts
  induction ts with
  | nil =>
    intro us t u r s ht hu h
    cases us with
    | nil =>
      simp only [listedRest, List.flatMap_nil, List.append_nil] at h
      obtain ⟨rfl, -, hrs⟩ := append_span_injective hend hend (ht t List.mem_cons_self)
        (hu u List.mem_cons_self) h
      exact ⟨rfl, hrs⟩
    | cons u' us =>
      simp only [listedRest, List.flatMap_nil, List.append_nil, List.flatMap_cons,
        List.cons_append, List.append_assoc] at h
      obtain ⟨-, hne, -⟩ := append_span_injective hend hcomma (ht t List.mem_cons_self)
        (hu u List.mem_cons_self) h
      exact absurd hne (by decide)
  | cons t' ts ih =>
    intro us t u r s ht hu h
    cases us with
    | nil =>
      simp only [listedRest, List.flatMap_nil, List.append_nil, List.flatMap_cons,
        List.cons_append, List.append_assoc] at h
      obtain ⟨-, hne, -⟩ := append_span_injective hcomma hend (ht t List.mem_cons_self)
        (hu u List.mem_cons_self) h
      exact absurd hne (by decide)
    | cons u' us =>
      have hsplit : ∀ (x : List Char) (y : List Char) (ys : List (List Char)) (z : List Char),
          x ++ listedRest (y :: ys) ++ ')' :: z =
            x ++ ',' :: ' ' :: (y ++ listedRest ys ++ ')' :: z) := by
        intro x y ys z
        simp [listedRest]
      rw [hsplit, hsplit] at h
      obtain ⟨rfl, -, hrest⟩ := append_span_injective hcomma hcomma (ht t List.mem_cons_self)
        (hu u List.mem_cons_self) h
      obtain ⟨hsame, hrs⟩ := ih (fun x hx => ht x (List.mem_cons_of_mem t hx))
        (fun x hx => hu x (List.mem_cons_of_mem t hx)) (List.cons.inj hrest).2
      exact ⟨by rw [hsame], hrs⟩

/-! ## Numbers -/

/-- The text of numbers in a list. -/
def numbers (ns : List Nat) : List Char :=
  (", ".intercalate (ns.map ofNat)).toList

/-- Whether a character may stand in a list of numbers. -/
def IsNumbersChar (c : Char) : Prop :=
  c.isDigit = true ∨ c = ',' ∨ c = ' '

instance (c : Char) : Decidable (IsNumbersChar c) :=
  inferInstanceAs (Decidable (_ ∨ _))

theorem isDigit_of_mem_ofNat {n : Nat} {c : Char} (h : c ∈ (ofNat n).toList) : c.isDigit = true := by
  rw [Json.ofNat_toList] at h
  exact Binary64.allDigits_toDigits n c h

theorem numbers_cons (n : Nat) (ns : List Nat) : numbers (n :: ns) =
    (ofNat n).toList ++ listedRest (ns.map fun m => (ofNat m).toList) := by
  rw [numbers, List.map_cons, toList_listed, List.map_map]
  rfl

theorem numbers_chars (ns : List Nat) : ∀ c ∈ numbers ns, IsNumbersChar c := by
  cases ns with
  | nil => exact nofun
  | cons n ns =>
    intro c hc
    rw [numbers_cons] at hc
    rcases List.mem_append.mp hc with hc | hc
    · exact .inl (isDigit_of_mem_ofNat hc)
    · obtain ⟨t, ht, hc⟩ := List.mem_flatMap.mp hc
      obtain ⟨m, -, rfl⟩ := List.mem_map.mp ht
      rcases List.mem_cons.mp hc with rfl | hc
      · exact .inr (.inl rfl)
      · rcases List.mem_cons.mp hc with rfl | hc
        · exact .inr (.inr rfl)
        · exact .inl (isDigit_of_mem_ofNat hc)

theorem isInner_of_isDigit {c : Char} (h : c.isDigit = true) : IsInner c := by
  constructor <;>
  · rintro rfl
    cases h

theorem ofInt_natCast (n : Nat) : ofInt n = ofNat n := by
  simp [ofInt]

theorem isInner_of_mem_ofInt {n : Int} {c : Char} (h : c ∈ (ofInt n).toList) : IsInner c := by
  have hdigit : c ∈ Nat.toDigits 10 n.natAbs → IsInner c := fun hc =>
    isInner_of_isDigit (Binary64.allDigits_toDigits _ c hc)
  rw [Json.ofInt_toList] at h
  split at h
  · rcases List.mem_cons.mp h with rfl | h
    · decide
    · exact hdigit h
  · exact hdigit h

/-- **A list of numbers determines the numbers.** -/
theorem numbers_injective {m n : Nat} {ms ns : List Nat}
    (h : numbers (m :: ms) = numbers (n :: ns)) : m :: ms = n :: ns := by
  have hinner : ∀ (k : Nat) (ks : List Nat),
      ∀ x ∈ (ofNat k).toList :: ks.map fun j => (ofNat j).toList, ∀ c ∈ x, IsInner c := by
    intro k ks x hx c hc
    refine isInner_of_isDigit ?_
    rcases List.mem_cons.mp hx with rfl | hx
    · exact isDigit_of_mem_ofNat hc
    · obtain ⟨j, -, rfl⟩ := List.mem_map.mp hx
      exact isDigit_of_mem_ofNat hc
  rw [numbers_cons, numbers_cons] at h
  have hclosed := congrArg (· ++ [')']) h
  obtain ⟨hsame, -⟩ := listed_injective (hinner m ms) (hinner n ns) hclosed
  have hmap : (m :: ms).map (fun k => (ofNat k).toList) =
      (n :: ns).map fun k => (ofNat k).toList := hsame
  refine List.map_injective_iff.mpr (fun i j hij => ?_) hmap
  rw [Json.ofNat_toList, Json.ofNat_toList] at hij
  exact Json.toDigits_injective hij

end Docstore.Text
