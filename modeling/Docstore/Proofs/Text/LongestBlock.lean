import Docstore.Text.Similarity
import Mathlib.Data.List.Basic

/-!
# The longest common block

The search for a block goes through the first text character by character and keeps, for each place of
the second text, the size of the run of equal characters that ends there.  A run takes the place of the
best one only if it is longer, so of the longest runs the earliest is kept.

* `longestRun_isLongest` — the run that is found is the longest one, and the earliest in the first
  text, and then in the second, of those that are as long.
* `Block.extend_isExtension` — it is extended to the largest block of equal characters around it.
* `longestBlock_isExtension`, `longestBlock_eq` — that is the block that is found, and no other.
-/

namespace Docstore.Similarity

variable {α : Type}

/-! ## Blocks -/

namespace Block

variable {test : α → Bool} {first second : List α} {b c : Block}

/-- A block of characters that are equal in both texts and pass a test. -/
structure Agrees (test : α → Bool) (first second : List α) (b : Block) : Prop where
  first_le : b.first + b.size ≤ first.length
  second_le : b.second + b.size ≤ second.length
  agree : ∀ k < b.size, ∃ c, first[b.first + k]? = some c ∧ second[b.second + k]? = some c ∧
    test c = true

theorem agrees_mk_iff {i j n : Nat} :
    Agrees test first second ⟨i, j, n⟩ ↔ i + n ≤ first.length ∧ j + n ≤ second.length ∧
      ∀ k < n, ∃ c, first[i + k]? = some c ∧ second[j + k]? = some c ∧ test c = true :=
  ⟨fun h => ⟨h.first_le, h.second_le, h.agree⟩, fun ⟨hi, hj, h⟩ => ⟨hi, hj, h⟩⟩

theorem Agrees.weaken (h : b.Agrees test first second) :
    b.Agrees (fun _ => true) first second where
  first_le := h.first_le
  second_le := h.second_le
  agree := by
    intro k hk
    obtain ⟨c, hfirst, hsecond, -⟩ := h.agree k hk
    exact ⟨c, hfirst, hsecond, rfl⟩

/-- Whether a block is to be preferred to another: it is longer, or as long and earlier in the first
text, or as early there and not later in the second. -/
def Precedes (b c : Block) : Prop :=
  c.size < b.size ∨ c.size = b.size ∧ (b.first < c.first ∨ b.first = c.first ∧ b.second ≤ c.second)

theorem Precedes.refl (b : Block) : b.Precedes b :=
  .inr ⟨rfl, .inr ⟨rfl, Nat.le_refl _⟩⟩

theorem Precedes.trans {a : Block} (hab : a.Precedes b) (hbc : b.Precedes c) : a.Precedes c := by
  unfold Precedes at *
  omega

theorem Precedes.antisymm (hbc : b.Precedes c) (hcb : c.Precedes b) : b = c := by
  cases b
  cases c
  simp only [Precedes] at hbc hcb
  simp only [mk.injEq]
  omega

/-- The block of characters passing a test that is preferred to all others. -/
structure IsLongest (test : α → Bool) (first second : List α) (b : Block) : Prop where
  agrees : b.Agrees test first second
  precedes : ∀ c : Block, c.Agrees test first second → b.Precedes c

theorem IsLongest.unique (hb : b.IsLongest test first second) (hc : c.IsLongest test first second) :
    b = c :=
  (hb.precedes c hc.agrees).antisymm (hc.precedes b hb.agrees)

theorem agrees_empty (test : α → Bool) (first second : List α) :
    Agrees test first second ⟨0, 0, 0⟩ :=
  ⟨Nat.zero_le _, Nat.zero_le _, fun _ hk => absurd hk (Nat.not_lt_zero _)⟩

/-- The longest block goes before every empty one. -/
theorem IsLongest.precedes_of_size (hb : b.IsLongest test first second) (hc : c.size = 0) :
    b.Precedes c := by
  have hempty := hb.precedes _ (agrees_empty test first second)
  unfold Precedes at *
  simp only at hempty
  omega

/-- A block keeps standing where it stands if the first text goes on. -/
theorem Agrees.append (h : b.Agrees test first second) (more : List α) :
    b.Agrees test (first ++ more) second where
  first_le := by
    rw [List.length_append]
    exact Nat.le_trans h.first_le (Nat.le_add_right _ _)
  second_le := h.second_le
  agree := by
    intro k hk
    obtain ⟨c, hfirst, hrest⟩ := h.agree k hk
    refine ⟨c, ?_, hrest⟩
    rw [List.getElem?_append_left (List.getElem?_eq_some_iff.mp hfirst).1, hfirst]

/-- A block that ends in the front part of the first text is a block of this part. -/
theorem Agrees.of_append {more : List α} (h : b.Agrees test (first ++ more) second)
    (hle : b.first + b.size ≤ first.length) : b.Agrees test first second where
  first_le := hle
  second_le := h.second_le
  agree := by
    intro k hk
    obtain ⟨c, hfirst, hrest⟩ := h.agree k hk
    refine ⟨c, ?_, hrest⟩
    rwa [List.getElem?_append_left (by omega)] at hfirst

/-- A block agrees exactly if its two parts do. -/
theorem agrees_add_iff {i j m n : Nat} : Agrees test first second ⟨i, j, m + n⟩ ↔
    Agrees test first second ⟨i, j, m⟩ ∧ Agrees test first second ⟨i + m, j + m, n⟩ := by
  simp only [agrees_mk_iff]
  constructor
  · rintro ⟨hfirst, hsecond, hagree⟩
    refine ⟨⟨by omega, by omega, fun k hk => hagree k (by omega)⟩, by omega, by omega, fun k hk => ?_⟩
    have hk' := hagree (m + k) (by omega)
    rwa [← Nat.add_assoc, ← Nat.add_assoc] at hk'
  · rintro ⟨⟨-, -, hfront⟩, hfirst, hsecond, hback⟩
    refine ⟨by omega, by omega, fun k hk => ?_⟩
    rcases Nat.lt_or_ge k m with hlt | hge
    · exact hfront k hlt
    · have hk' := hback (k - m) (by omega)
      rwa [Nat.add_assoc, Nat.add_assoc, Nat.add_sub_cancel' hge] at hk'

/-- Whether a block takes in another one, on the same places of either text. -/
def Around (e b : Block) : Prop :=
  ∃ back, b.first = e.first + back ∧ b.second = e.second + back ∧ back + b.size ≤ e.size

/-- The largest block of equal characters around a block. -/
structure IsExtension (first second : List α) (e b : Block) : Prop where
  agrees : e.Agrees (fun _ => true) first second
  around : e.Around b
  largest : ∀ d : Block, d.Agrees (fun _ => true) first second → d.Around b → e.Around d

theorem IsExtension.unique {d e : Block} (he : e.IsExtension first second b)
    (hd : d.IsExtension first second b) : e = d := by
  obtain ⟨m, hfirst, hsecond, hsize⟩ := he.largest d hd.agrees hd.around
  obtain ⟨n, hfirst', hsecond', hsize'⟩ := hd.largest e he.agrees he.around
  cases e
  cases d
  simp only at *
  simp only [mk.injEq]
  omega

end Block

/-! ## Texts read backwards -/

/-- The characters of a text up to a place, the last one first. -/
def upTo (text : List α) (place : Nat) : List α :=
  (text.take place).reverse

theorem getElem?_upTo {text : List α} {i n k : Nat} (hi : i + n ≤ text.length) (hk : k < n) :
    (upTo text (i + n))[k]? = text[i + (n - 1 - k)]? := by
  have hlength : (text.take (i + n)).length = i + n := by
    rw [List.length_take, Nat.min_eq_left hi]
  rw [upTo, List.getElem?_reverse (by omega), hlength, List.getElem?_take_of_lt (by omega)]
  congr 1
  omega

theorem upTo_append (done : List α) (c : α) :
    upTo (done ++ [c]) (done ++ [c]).length = c :: upTo done done.length := by
  rw [upTo, List.take_length, List.reverse_append, upTo, List.take_length]
  rfl

theorem upTo_succ {text : List α} {place : Nat} {c : α} (hc : text[place]? = some c) :
    upTo text (place + 1) = c :: upTo text place := by
  rw [upTo, List.take_add_one, hc, List.reverse_append]
  rfl

variable [DecidableEq α] {test : α → Bool} {first second : List α}

/-! ## Runs of equal characters -/

/-- How many characters two texts share from the start on, as long as they pass a test. -/
def sharedWith (test : α → Bool) : List α → List α → Nat
  | c :: cs, d :: ds => if test c && d == c then sharedWith test cs ds + 1 else 0
  | _, _ => 0

theorem shared_eq_sharedWith : ∀ xs ys : List α, shared xs ys = sharedWith (fun _ => true) xs ys
  | c :: cs, d :: ds => by
    have hcomm : (d == c) = (c == d) := BEq.comm
    simp only [shared, sharedWith, Bool.true_and, hcomm, shared_eq_sharedWith cs ds]
  | [], _ => by simp [shared, sharedWith]
  | _ :: _, [] => by simp [shared, sharedWith]

theorem sharedWith_le (test : α → Bool) (xs ys : List α) :
    sharedWith test xs ys ≤ xs.length ∧ sharedWith test xs ys ≤ ys.length := by
  fun_induction sharedWith test xs ys with
  | case1 c cs d ds _ ih => exact ⟨Nat.succ_le_succ ih.1, Nat.succ_le_succ ih.2⟩
  | case2 => exact ⟨Nat.zero_le _, Nat.zero_le _⟩
  | case3 => exact ⟨Nat.zero_le _, Nat.zero_le _⟩

/-- Two texts share as many characters as agree one by one. -/
theorem le_sharedWith_iff : ∀ {xs ys : List α} {n : Nat}, n ≤ sharedWith test xs ys ↔
    ∀ k < n, ∃ c, xs[k]? = some c ∧ ys[k]? = some c ∧ test c = true
  | _, _, 0 => by simp
  | [], _, n + 1 => by simpa [sharedWith] using ⟨0, by simp⟩
  | _ :: _, [], n + 1 => by simpa [sharedWith] using ⟨0, by simp⟩
  | c :: cs, d :: ds, n + 1 => by
    unfold sharedWith
    constructor
    · intro h k hk
      split at h
      · rename_i hc
        simp only [Bool.and_eq_true, beq_iff_eq] at hc
        obtain ⟨htest, rfl⟩ := hc
        cases k with
        | zero => exact ⟨d, rfl, rfl, htest⟩
        | succ k => exact le_sharedWith_iff.mp (Nat.le_of_succ_le_succ h) k (by omega)
      · omega
    · intro h
      obtain ⟨e, hc, hd, htest⟩ := h 0 (Nat.succ_pos n)
      cases hc
      cases hd
      rw [htest, BEq.rfl, Bool.and_self, if_pos rfl]
      refine Nat.succ_le_succ (le_sharedWith_iff.mpr fun k hk => ?_)
      exact h (k + 1) (by omega)

/-- **A block agrees exactly if the texts share its characters** on the way back from its end. -/
theorem agrees_iff {b : Block} (hfirst : b.first + b.size ≤ first.length)
    (hsecond : b.second + b.size ≤ second.length) : b.Agrees test first second ↔
      b.size ≤ sharedWith test (upTo first (b.first + b.size)) (upTo second (b.second + b.size)) := by
  rw [le_sharedWith_iff]
  constructor
  · intro h k hk
    rw [getElem?_upTo hfirst hk, getElem?_upTo hsecond hk]
    exact h.agree (b.size - 1 - k) (by omega)
  · refine fun h => ⟨hfirst, hsecond, fun k hk => ?_⟩
    have hback := h (b.size - 1 - k) (by omega)
    rwa [getElem?_upTo hfirst (by omega), getElem?_upTo hsecond (by omega),
      Nat.sub_sub_self (by omega)] at hback

/-! ## The longest run -/

/-- The run that ends with the first text and at a place of the second. -/
def runAt (test : α → Bool) (first second : List α) (place : Nat) : Block :=
  let size := sharedWith test (upTo first first.length) (upTo second (place + 1))
  ⟨first.length - size, place + 1 - size, size⟩

/-- The runs that end with the first text, by the places of the second. -/
def lastRuns (test : α → Bool) (first second : List α) : List Block :=
  (List.range second.length).map (runAt test first second)

/-- The sizes of the runs that end with the first text. -/
def ends (test : α → Bool) (first second : List α) : List Nat :=
  (lastRuns test first second).map (·.size)

theorem ends_nil (test : α → Bool) (second : List α) :
    ends test [] second = second.map fun _ => 0 := by
  simp [ends, lastRuns, runAt, upTo, sharedWith, Function.comp_def]

/-- The size that a run has before the character at a place is looked at. -/
theorem getElem?_cons_ends (test : α → Bool) (done : List α) {second : List α} {place : Nat}
    (hplace : place < second.length) : (0 :: ends test done second)[place]? =
      some (sharedWith test (upTo done done.length) (upTo second place)) := by
  cases place with
  | zero =>
    cases upTo done done.length <;> rfl
  | succ place =>
    rw [List.getElem?_cons_succ, ends, lastRuns, List.getElem?_map, List.getElem?_map,
      List.getElem?_range (by omega)]
    rfl

/-- **The runs that end with one more character** are those that the search finds. -/
theorem ends_append (done : List α) (c : α) (second : List α) :
    ends test (done ++ [c]) second = runs test c second (ends test done second) := by
  refine List.ext_getElem? fun place => ?_
  by_cases hplace : place < second.length
  · have hd := List.getElem?_eq_getElem hplace
    have hprevious := getElem?_cons_ends test done hplace
    rw [ends, lastRuns, List.getElem?_map, List.getElem?_map, List.getElem?_range hplace,
      Option.map_some, Option.map_some, runAt, upTo_append, upTo_succ hd, runs]
    cases htest : test c with
    | false => simp [sharedWith, htest, hplace]
    | true => simp [sharedWith, htest, List.getElem?_zipWith, hd, hprevious]
  · have hsecond : second.length ≤ place := Nat.le_of_not_lt hplace
    unfold runs
    split <;> simp [ends, lastRuns, hsecond]

/-- A run is no longer than the texts up to its end. -/
theorem runAt_size_le (test : α → Bool) (first : List α) {place : Nat} (hplace : place < second.length) :
    (runAt test first second place).size ≤ first.length ∧
    (runAt test first second place).size ≤ place + 1 := by
  have hle := sharedWith_le test (upTo first first.length) (upTo second (place + 1))
  have hfirst : (upTo first first.length).length = first.length := by simp [upTo]
  have hsecond : (upTo second (place + 1)).length = place + 1 := by
    rw [upTo, List.length_reverse, List.length_take, Nat.min_eq_left hplace]
  rwa [hfirst, hsecond] at hle

theorem runAt_first (test : α → Bool) (first second : List α) (place : Nat) :
    (runAt test first second place).first =
      first.length - (runAt test first second place).size := rfl

theorem runAt_second (test : α → Bool) (first second : List α) (place : Nat) :
    (runAt test first second place).second =
      place + 1 - (runAt test first second place).size := rfl

theorem runAt_agrees {place : Nat} (hplace : place < second.length) :
    (runAt test first second place).Agrees test first second := by
  obtain ⟨hfirst, hsecond⟩ := runAt_size_le test first hplace
  have hstart : (runAt test first second place).first + (runAt test first second place).size =
      first.length := Nat.sub_add_cancel hfirst
  have hstop : (runAt test first second place).second + (runAt test first second place).size =
      place + 1 := Nat.sub_add_cancel hsecond
  rw [agrees_iff (by omega) (by omega), hstart, hstop]
  exact Nat.le_refl _

/-- The run is preferred to every block with the same end. -/
theorem runAt_precedes {place : Nat} {c : Block} (hc : c.Agrees test first second)
    (hfirst : c.first + c.size = first.length) (hsecond : c.second + c.size = place + 1) :
    (runAt test first second place).Precedes c := by
  have hsize : c.size ≤ (runAt test first second place).size := by
    have hshared := (agrees_iff hc.first_le hc.second_le).mp hc
    rwa [hfirst, hsecond] at hshared
  have hstart := runAt_first test first second place
  have hstop := runAt_second test first second place
  unfold Block.Precedes
  omega

/-- A block that ends before the first text does, and the runs that end with it, come in the order
of preference among those of one size. -/
theorem pairwise_lastRuns (test : α → Bool) (second : List α) {best : Block}
    (hbest : best.first + best.size < first.length) :
    (best :: lastRuns test first second).Pairwise fun b c => c.size = b.size → b.Precedes c := by
  refine List.pairwise_cons.mpr ⟨?_, List.pairwise_map.mpr ?_⟩
  · intro b hb hsize
    obtain ⟨place, -, rfl⟩ := List.mem_map.mp hb
    have hstart := runAt_first test first second place
    unfold Block.Precedes
    omega
  · refine List.Pairwise.imp ?_ List.pairwise_lt_range
    intro m n hmn hsize
    have hstart := runAt_first test first second m
    have hstart' := runAt_first test first second n
    have hstop := runAt_second test first second m
    have hstop' := runAt_second test first second n
    unfold Block.Precedes
    omega

/-- The better of two blocks: the second one only if it is longer. -/
def better (best b : Block) : Block :=
  if best.size < b.size then b else best

theorem better_eq (best b : Block) : better best b = best ∨ better best b = b := by
  unfold better
  split
  · exact .inr rfl
  · exact .inl rfl

/-- The better of two blocks is preferred to both, if the first one is among blocks of one size. -/
theorem better_precedes {best b : Block} (h : b.size = best.size → best.Precedes b) :
    (better best b).Precedes best ∧ (better best b).Precedes b := by
  unfold better
  split
  · exact ⟨.inl ‹_›, .refl b⟩
  · refine ⟨.refl best, ?_⟩
    rcases Nat.lt_or_ge b.size best.size with hlt | hge
    · exact .inl hlt
    · exact h (by omega)

theorem foldl_better_mem : ∀ (blocks : List Block) (best : Block),
    blocks.foldl better best ∈ best :: blocks
  | [], _ => List.mem_cons_self
  | b :: rest, best => by
    have hmem := foldl_better_mem rest (better best b)
    rw [List.foldl_cons]
    rcases better_eq best b with heq | heq <;> rw [heq] at hmem ⊢
    · rcases List.mem_cons.mp hmem with hmem | hmem
      · rw [hmem]
        exact List.mem_cons_self
      · exact List.mem_cons_of_mem _ (List.mem_cons_of_mem _ hmem)
    · exact List.mem_cons_of_mem _ hmem

/-- Of blocks that come in the order of preference among those of one size, the one that is kept is
preferred to all. -/
theorem foldl_better_precedes : ∀ {blocks : List Block} {best : Block},
    (best :: blocks).Pairwise (fun b c => c.size = b.size → b.Precedes c) →
    ∀ c ∈ best :: blocks, (blocks.foldl better best).Precedes c
  | [], best, _, c, hc => by
    rw [List.mem_singleton.mp hc]
    exact .refl best
  | b :: rest, best, h, c, hc => by
    obtain ⟨hbest, hrest⟩ := List.pairwise_cons.mp h
    obtain ⟨hkeptbest, hkeptb⟩ := better_precedes (hbest b List.mem_cons_self)
    have hpairs : (better best b :: rest).Pairwise (fun b c => c.size = b.size → b.Precedes c) := by
      rcases better_eq best b with heq | heq <;> rw [heq]
      · exact List.pairwise_cons.mpr
          ⟨fun d hd => hbest d (List.mem_cons_of_mem _ hd), (List.pairwise_cons.mp hrest).2⟩
      · exact hrest
    have hall := foldl_better_precedes hpairs
    rw [List.foldl_cons]
    rcases List.mem_cons.mp hc with rfl | hc
    · exact (hall _ List.mem_cons_self).trans hkeptbest
    · rcases List.mem_cons.mp hc with rfl | hc
      · exact (hall _ List.mem_cons_self).trans hkeptb
      · exact hall c (List.mem_cons_of_mem _ hc)

/-- The best of the runs that end with one more character. -/
theorem bestOf_ends (done : List α) (c : α) (second : List α) (best : Block) :
    bestOf done.length (ends test (done ++ [c]) second) best =
      (lastRuns test (done ++ [c]) second).foldl better best := by
  have hruns : lastRuns test (done ++ [c]) second =
      (ends test (done ++ [c]) second).zipIdx.map
        fun run => ⟨done.length + 1 - run.1, run.2 + 1 - run.1, run.1⟩ := by
    refine List.ext_getElem? fun place => ?_
    by_cases hplace : place < second.length
    · simp [ends, lastRuns, List.getElem?_range hplace, List.getElem?_zipIdx, runAt]
    · simp [ends, lastRuns, Nat.le_of_not_lt hplace]
  rw [hruns, List.foldl_map]
  rfl

/-- **A round of the search keeps the longest run**: of the texts so far, and then with one more
character of the first. -/
theorem bestOf_isLongest {done : List α} {best : Block} (hbest : best.IsLongest test done second)
    (c : α) : (bestOf done.length (ends test (done ++ [c]) second) best).IsLongest test
      (done ++ [c]) second := by
  have hlength : (done ++ [c]).length = done.length + 1 := by simp
  have hends := hbest.agrees.first_le
  have hmem := foldl_better_mem (lastRuns test (done ++ [c]) second) best
  have hbefore : best.first + best.size < (done ++ [c]).length := by omega
  have hall := foldl_better_precedes (pairwise_lastRuns test second hbefore)
  rw [← bestOf_ends] at hmem hall
  constructor
  · rcases List.mem_cons.mp hmem with heq | hmem
    · rw [heq]
      exact hbest.agrees.append [c]
    · obtain ⟨place, hplace, heq⟩ := List.mem_map.mp hmem
      rw [← heq]
      exact runAt_agrees (List.mem_range.mp hplace)
  · intro d hd
    have hfirst := hd.first_le
    rw [hlength] at hfirst
    by_cases hearlier : d.first + d.size ≤ done.length
    · exact (hall best List.mem_cons_self).trans (hbest.precedes d (hd.of_append hearlier))
    by_cases hempty : d.size = 0
    · exact (hall best List.mem_cons_self).trans (hbest.precedes_of_size hempty)
    -- what is left ends with the character that is looked at
    have hsecond := hd.second_le
    have hplace : d.second + d.size - 1 < second.length := by omega
    have hrun := hall _ (List.mem_cons_of_mem best (List.mem_map_of_mem (List.mem_range.mpr hplace)))
    exact hrun.trans (runAt_precedes hd (by omega) (by omega))

/-- The search over the characters that are left, from the longest run so far. -/
theorem longestRun_append_isLongest : ∀ (left done : List α) {best : Block},
    best.IsLongest test done second →
    (longestRun test second done.length left (ends test done second) best).IsLongest test
      (done ++ left) second
  | [], done, best, hbest => by
    rw [List.append_nil]
    exact hbest
  | c :: rest, done, best, hbest => by
    have hround := longestRun_append_isLongest rest (done ++ [c]) (bestOf_isLongest hbest c)
    rw [List.append_assoc, ends_append, List.length_append] at hround
    exact hround

/-- **The run that is found is the longest one**, and of those that are as long the earliest. -/
theorem longestRun_isLongest (test : α → Bool) (first second : List α) :
    (longestRun test second 0 first (second.map fun _ => 0) ⟨0, 0, 0⟩).IsLongest test first
      second := by
  have hempty : Block.IsLongest test [] second ⟨0, 0, 0⟩ := by
    refine ⟨Block.agrees_empty test [] second, fun c hc => ?_⟩
    have hfirst := hc.first_le
    rw [List.length_nil] at hfirst
    unfold Block.Precedes
    simp only
    omega
  have h := longestRun_append_isLongest first [] hempty
  rwa [ends_nil] at h

/-! ## Extensions -/

/-- The characters shared in front of two places are a block. -/
theorem agrees_before_iff {i j n : Nat} (hi : i + n ≤ first.length) (hj : j + n ≤ second.length) :
    Block.Agrees (fun _ => true) first second ⟨i, j, n⟩ ↔
      n ≤ shared (upTo first (i + n)) (upTo second (j + n)) := by
  rw [agrees_iff hi hj, shared_eq_sharedWith]

/-- The characters shared from two places on are a block. -/
theorem agrees_after_iff {i j n : Nat} (hi : i + n ≤ first.length) (hj : j + n ≤ second.length) :
    Block.Agrees (fun _ => true) first second ⟨i, j, n⟩ ↔
      n ≤ shared (first.drop i) (second.drop j) := by
  rw [shared_eq_sharedWith, le_sharedWith_iff, Block.agrees_mk_iff]
  simp only [List.getElem?_drop]
  exact ⟨fun h => h.2.2, fun h => ⟨hi, hj, h⟩⟩

theorem shared_le (xs ys : List α) : shared xs ys ≤ xs.length ∧ shared xs ys ≤ ys.length := by
  rw [shared_eq_sharedWith]
  exact sharedWith_le _ xs ys

/-- **A block is extended to the largest block of equal characters around it.** -/
theorem Block.extend_isExtension {b : Block} (hb : b.Agrees (fun _ => true) first second) :
    (b.extend first second).IsExtension first second b := by
  obtain ⟨i, j, n⟩ := b
  obtain ⟨back, hback⟩ : ∃ back, shared (upTo first i) (upTo second j) = back := ⟨_, rfl⟩
  obtain ⟨ahead, hahead⟩ :
    ∃ ahead, shared (first.drop (i + n)) (second.drop (j + n)) = ahead := ⟨_, rfl⟩
  have hextend : extend first second ⟨i, j, n⟩ = ⟨i - back, j - back, back + n + ahead⟩ := by
    rw [← hback, ← hahead]
    rfl
  have hbounds := shared_le (upTo first i) (upTo second j)
  have hbounds' := shared_le (first.drop (i + n)) (second.drop (j + n))
  rw [hback, upTo, upTo, List.length_reverse, List.length_reverse, List.length_take,
    List.length_take] at hbounds
  rw [hahead, List.length_drop, List.length_drop] at hbounds'
  have hi : i + n ≤ first.length := hb.first_le
  have hj : j + n ≤ second.length := hb.second_le
  -- both places lie as far behind the start of the extension
  obtain ⟨i, rfl⟩ : ∃ i', i = i' + back := ⟨i - back, by omega⟩
  obtain ⟨j, rfl⟩ : ∃ j', j = j' + back := ⟨j - back, by omega⟩
  rw [hextend, Nat.add_sub_cancel, Nat.add_sub_cancel]
  refine ⟨?_, ⟨back, rfl, rfl, by simp only; omega⟩, ?_⟩
  · rw [agrees_add_iff, agrees_add_iff]
    refine ⟨⟨?_, hb⟩, ?_⟩
    · exact (agrees_before_iff (by omega) (by omega)).mpr (Nat.le_of_eq hback.symm)
    · refine (agrees_after_iff (by omega) (by omega)).mpr (Nat.le_of_eq ?_)
      rw [← Nat.add_assoc, ← Nat.add_assoc, hahead]
  · rintro ⟨i', j', n'⟩ hd ⟨m, hfirst, hsecond, hsize⟩
    simp only at hfirst hsecond hsize
    obtain ⟨l, rfl⟩ : ∃ l, n' = m + n + l := ⟨n' - (m + n), by omega⟩
    obtain ⟨hparts, hafter⟩ := agrees_add_iff.mp hd
    have hbefore := (agrees_add_iff.mp hparts).1
    have hm : m ≤ back := by
      have h := (agrees_before_iff hbefore.first_le hbefore.second_le).mp hbefore
      rwa [← hfirst, ← hsecond, hback] at h
    have hl : l ≤ ahead := by
      have h := (agrees_after_iff hafter.first_le hafter.second_le).mp hafter
      rwa [← Nat.add_assoc, ← Nat.add_assoc, ← hfirst, ← hsecond, hahead] at h
    exact ⟨back - m, by simp only; omega, by simp only; omega, by simp only; omega⟩

/-- **The block that is found is the extension of the longest run.** -/
theorem longestBlock_isExtension (test : α → Bool) (first second : List α) :
    ∃ b : Block, b.IsLongest test first second ∧
      (longestBlock test first second).IsExtension first second b :=
  have hlongest := longestRun_isLongest test first second
  ⟨_, hlongest, Block.extend_isExtension hlongest.agrees.weaken⟩

/-- No other block is the extension of the longest run. -/
theorem longestBlock_eq {b e : Block} (hb : b.IsLongest test first second)
    (he : e.IsExtension first second b) : longestBlock test first second = e := by
  obtain ⟨b', hb', he'⟩ := longestBlock_isExtension test first second
  rw [hb'.unique hb] at he'
  exact he'.unique he

end Docstore.Similarity
