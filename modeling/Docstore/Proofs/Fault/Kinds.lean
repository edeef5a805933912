import Docstore.Sorting.Runs

/-!
# Kinds of errors

What a computation comes to is told by two predicates: one for its errors, one for its results.  If
every step keeps to them, so does the whole.  Sorting by runs makes comparisons and moves items, so
it fails only as its comparisons do, and its result has the items that were sorted, each as often as
before, whatever the comparisons say.

* `Yields.bind`, `Yields.mapM` — computations in sequence.
* `Sorting.sortByRuns_yields` — what sorting by runs comes to.
-/

namespace Docstore

variable {α β ε : Type} {P : ε → Prop}

/-- The errors of a computation are of one kind, and its results of another. -/
def Yields (P : ε → Prop) (Q : α → Prop) : Except ε α → Prop
  | .error e => P e
  | .ok a => Q a

/-- A computation fails only with errors of a kind. -/
abbrev FailsWith (P : ε → Prop) (x : Except ε α) : Prop :=
  Yields P (fun _ => True) x

namespace Yields

variable {Q : α → Prop} {R : β → Prop}

theorem of_error {x : Except ε α} {e : ε} (h : Yields P Q x) (he : x = .error e) : P e := by
  rw [he] at h
  exact h

theorem of_ok {x : Except ε α} {a : α} (h : Yields P Q x) (ha : x = .ok a) : Q a := by
  rw [ha] at h
  exact h

theorem bind {x : Except ε α} {f : α → Except ε β} (hx : Yields P Q x)
    (hf : ∀ a, Q a → Yields P R (f a)) : Yields P R (x >>= f) := by
  cases x with
  | error e => exact hx
  | ok a => exact hf a hx

theorem map {x : Except ε α} {f : α → β} (hx : Yields P Q x) (hf : ∀ a, Q a → R (f a)) :
    Yields P R (x.map f) := by
  cases x with
  | error e => exact hx
  | ok a => exact hf a hx

theorem mono {P' : ε → Prop} {Q' : α → Prop} {x : Except ε α} (hx : Yields P Q x)
    (hP : ∀ e, P e → P' e) (hQ : ∀ a, Q a → Q' a) : Yields P' Q' x := by
  cases x with
  | error e => exact hP e hx
  | ok a => exact hQ a hx

theorem imp {Q' : α → Prop} {x : Except ε α} (hx : Yields P Q x) (hQ : ∀ a, Q a → Q' a) :
    Yields P Q' x :=
  hx.mono (fun _ he => he) hQ

theorem mapM {f : α → Except ε β} {xs : List α} (h : ∀ x ∈ xs, FailsWith P (f x)) :
    FailsWith P (xs.mapM f) := by
  induction xs with
  | nil => trivial
  | cons x rest ih =>
    rw [List.mapM_cons]
    have hrest := ih fun y hy => h y (List.mem_cons_of_mem x hy)
    exact (h x List.mem_cons_self).bind fun _ _ => hrest.bind fun _ _ => trivial

end Yields

/-! ## Sorting -/

namespace Sorting

variable {Q : α → Prop} {lt : α → α → Except ε Bool}

/-- What is asked the other way round fails as it does. -/
theorem not_failsWith {x : Except ε Bool} (h : FailsWith P x) :
    FailsWith P (do return !(← x)) :=
  h.bind fun _ _ => trivial

section Bisection

theorem ascending_failsWith (h : ∀ x y, FailsWith P (lt x y)) :
    ∀ (items : List α) (last : α), FailsWith P (ascending lt last items)
  | [], _ => trivial
  | x :: rest, last => by
    unfold ascending
    refine (h x last).bind fun isLess _ => ?_
    split
    · trivial
    · exact (ascending_failsWith h rest x).bind fun _ _ => trivial

theorem descending_failsWith (h : ∀ x y, FailsWith P (lt x y)) :
    ∀ (items : List α) (last : α), FailsWith P (descending lt last items)
  | [], _ => trivial
  | x :: rest, last => by
    unfold descending
    refine (h x last).bind fun isLess _ => ?_
    split
    · exact (descending_failsWith h rest x).bind fun _ _ => trivial
    · trivial

theorem splitRun_yields (h : ∀ x y, FailsWith P (lt x y)) (items : List α) :
    Yields P (fun r => (r.1 ++ r.2).Perm items ∧ (items ≠ [] → r.2.length < items.length))
      (splitRun lt items) := by
  unfold splitRun
  split
  · rename_i x y rest
    refine (h y x).bind fun isLess _ => ?_
    split
    · refine (descending_failsWith h rest y).bind fun count _ => ⟨?_, fun _ => ?_⟩
      · refine ((List.reverse_perm _).append_right _).trans ?_
        rw [List.take_append_drop]
      · rw [List.length_drop, List.length_cons]
        omega
    · refine (ascending_failsWith h rest y).bind fun count _ => ⟨?_, fun _ => ?_⟩
      · rw [List.take_append_drop]
      · rw [List.length_drop, List.length_cons]
        omega
  · exact ⟨by rw [List.append_nil], List.length_pos_iff.mpr⟩

theorem bisect_failsWith {isAfter : α → Except ε Bool} (h : ∀ x, FailsWith P (isAfter x))
    (items : Array α) : ∀ fuel low high, FailsWith P (bisect isAfter items fuel low high)
  | 0, _, _ => trivial
  | fuel + 1, low, high => by
    unfold bisect
    split
    · dsimp only
      split
      · refine (h _).bind fun after _ => ?_
        split
        · exact bisect_failsWith h items fuel _ _
        · exact bisect_failsWith h items fuel _ _
      · trivial
    · trivial

theorem placeByBisection_yields (h : ∀ x y, FailsWith P (lt x y)) (sorted : List α) (x : α) :
    Yields P (·.Perm (x :: sorted)) (placeByBisection lt sorted x) := by
  refine (bisect_failsWith (h x) _ _ _ _).bind fun place _ => ?_
  calc (sorted.take place ++ x :: sorted.drop place).Perm
        (x :: (sorted.take place ++ sorted.drop place)) := List.perm_middle
    _ = x :: sorted := by rw [List.take_append_drop]

theorem placeAll_yields (h : ∀ x y, FailsWith P (lt x y)) : ∀ items sorted : List α,
    Yields P (·.Perm (sorted ++ items)) (placeAll lt sorted items)
  | [], sorted => by
    show sorted.Perm (sorted ++ [])
    rw [List.append_nil]
  | x :: rest, sorted => by
    refine (placeByBisection_yields h sorted x).bind fun placed hplaced => ?_
    refine (placeAll_yields h rest placed).imp fun r hr => hr.trans ?_
    exact (hplaced.append_right rest).trans List.perm_middle.symm

end Bisection

section Merge

theorem stride_failsWith {holds : α → Except ε Bool} (h : ∀ x, FailsWith P (holds x))
    (probe : Nat → Option α) (limit : Nat) :
    ∀ fuel last step, FailsWith P (stride holds probe limit fuel last step)
  | 0, _, _ => trivial
  | fuel + 1, last, step => by
    unfold stride
    split
    · split
      · refine (h _).bind fun b _ => ?_
        split
        · exact stride_failsWith h probe limit fuel _ _
        · trivial
      · trivial
    · trivial

theorem gallop_failsWith {isAfter : α → Except ε Bool} (h : ∀ x, FailsWith P (isAfter x))
    (items : Array α) (hint : Nat) : FailsWith P (gallop isAfter items hint) := by
  unfold gallop
  split
  · trivial
  · refine (h _).bind fun after _ => ?_
    split
    · exact (stride_failsWith h _ _ _ _ _).bind fun _ _ => bisect_failsWith h items _ _ _
    · exact (stride_failsWith (fun y => not_failsWith (h y)) _ _ _ _ _).bind fun _ _ =>
        bisect_failsWith h items _ _ _

namespace Merging

theorem result_perm (m : Merging α) (ends : Ends) : (m.result ends).Perm m.items := by
  cases ends with
  | fronts =>
    calc (m.moved.reverse ++ m.right ++ m.left).Perm (m.moved ++ m.right ++ m.left) :=
          ((List.reverse_perm _).append_right _).append_right _
      _ |>.Perm (m.moved ++ m.left ++ m.right) := by
          rw [List.append_assoc, List.append_assoc]
          exact List.perm_append_comm.append_left _
  | backs =>
    calc (m.right.reverse ++ m.left.reverse ++ m.moved).Perm (m.right ++ m.left ++ m.moved) :=
          ((List.reverse_perm _).append (List.reverse_perm _)).append_right _
      _ |>.Perm (m.moved ++ (m.right ++ m.left)) := List.perm_append_comm
      _ |>.Perm (m.moved ++ m.left ++ m.right) := by
          rw [List.append_assoc]
          exact List.perm_append_comm.append_left _

theorem items_start (left right : List α) (ends : Ends) :
    (start left right ends).items.Perm (left ++ right) := by
  cases ends with
  | fronts => exact .refl _
  | backs => exact (List.reverse_perm left).append (List.reverse_perm right)

theorem reach_failsWith {isAfter : α → Except ε Bool} (h : ∀ x, FailsWith P (isAfter x))
    (next : List α) (ends : Ends) : FailsWith P (reach isAfter next ends) := by
  cases ends with
  | fronts => exact gallop_failsWith h _ 0
  | backs => exact (gallop_failsWith h _ _).bind fun _ _ => trivial

variable (ends : Ends)

theorem oneByOne_yields (h : ∀ x y, FailsWith P (lt x y)) (threshold : Nat) :
    ∀ fuel leftWins rightWins (m : Merging α),
      Yields P (·.items.Perm m.items) (oneByOne lt ends threshold fuel leftWins rightWins m)
  | 0, _, _, m => .refl m.items
  | fuel + 1, leftWins, rightWins, m => by
    unfold oneByOne
    split
    · refine (h _ _).bind fun rightIsLess _ => ?_
      dsimp only
      split
      · split
        · exact items_moveRight 1 m
        · exact (oneByOne_yields h threshold fuel _ _ (m.moveRight 1)).imp
            fun r hr => hr.trans (items_moveRight 1 m)
      · split
        · exact items_moveLeft 1 m
        · exact (oneByOne_yields h threshold fuel _ _ (m.moveLeft 1)).imp
            fun r hr => hr.trans (items_moveLeft 1 m)
    · exact .refl m.items

theorem gallopLeft_yields (h : ∀ x y, FailsWith P (lt x y)) (m : Merging α) :
    Yields P (·.2.items.Perm m.items) (gallopLeft lt ends m) := by
  unfold gallopLeft
  split
  · exact .refl m.items
  · refine (reach_failsWith (fun x => h _ x) _ ends).bind fun count _ => ?_
    show (if _ then _ else _ : Merging α).items.Perm m.items
    split
    · exact items_moveLeft count m
    · exact (items_moveRight 1 _).trans (items_moveLeft count m)

theorem gallopRight_yields (h : ∀ x y, FailsWith P (lt x y)) (m : Merging α) :
    Yields P (·.2.items.Perm m.items) (gallopRight lt ends m) := by
  unfold gallopRight
  split
  · exact .refl m.items
  · refine (reach_failsWith (fun y => not_failsWith (h y _)) _ ends).bind fun count _ => ?_
    show (if _ then _ else _ : Merging α).items.Perm m.items
    split
    · exact items_moveRight count m
    · exact (items_moveLeft 1 _).trans (items_moveRight count m)

theorem galloping_yields (h : ∀ x y, FailsWith P (lt x y)) :
    ∀ fuel threshold (m : Merging α),
      Yields P (·.2.items.Perm m.items) (galloping lt ends fuel threshold m)
  | 0, _, m => .refl m.items
  | fuel + 1, threshold, m => by
    unfold galloping
    refine (gallopLeft_yields ends h m).bind ?_
    rintro ⟨leftCount, m₁⟩ hm₁
    dsimp only
    split
    · exact hm₁
    · refine (gallopRight_yields ends h m₁).bind ?_
      rintro ⟨rightCount, m₂⟩ hm₂
      have hm₂ : m₂.items.Perm m.items := hm₂.trans hm₁
      dsimp only
      split
      · exact hm₂
      · split
        · exact (galloping_yields h fuel _ m₂).imp fun r hr => hr.trans hm₂
        · exact hm₂

theorem finish_yields (h : ∀ x y, FailsWith P (lt x y)) : ∀ fuel threshold (m : Merging α),
    Yields P (·.2.Perm m.items) (finish lt ends fuel threshold m)
  | 0, _, m => result_perm m ends
  | fuel + 1, threshold, m => by
    unfold finish
    split
    · exact result_perm m ends
    · refine (oneByOne_yields ends h threshold _ 0 0 m).bind fun m₁ hm₁ => ?_
      split
      · exact (result_perm m₁ ends).trans hm₁
      · refine (galloping_yields ends h _ threshold m₁).bind ?_
        rintro ⟨threshold', m₂⟩ hm₂
        exact (finish_yields h fuel threshold' m₂).imp
          fun r hr => hr.trans (hm₂.trans hm₁)

end Merging

theorem mergeOverlap_yields (h : ∀ x y, FailsWith P (lt x y)) (threshold : Nat)
    (left right : List α) :
    Yields P (·.2.Perm (left ++ right)) (mergeOverlap lt threshold left right) := by
  unfold mergeOverlap
  dsimp only
  split
  · refine (Merging.finish_yields .fronts h _ threshold _).imp fun r hr => ?_
    exact hr.trans ((Merging.items_moveRight 1 _).trans (Merging.items_start left right _))
  · refine (Merging.finish_yields .backs h _ threshold _).imp fun r hr => ?_
    exact hr.trans ((Merging.items_moveLeft 1 _).trans (Merging.items_start left right _))

theorem mergeRuns_yields (h : ∀ x y, FailsWith P (lt x y)) (threshold : Nat)
    (left right : List α) :
    Yields P (·.2.Perm (left ++ right)) (mergeRuns lt threshold left right) := by
  unfold mergeRuns
  split
  · show left.Perm (left ++ [])
    rw [List.append_nil]
  · rename_i first rest
    refine (gallop_failsWith (fun x => h _ x) _ 0).bind fun start _ => ?_
    split
    · exact .refl _
    · refine (gallop_failsWith (fun y => not_failsWith (h y _)) _ _).bind fun stop _ => ?_
      split
      · exact .refl _
      · refine (mergeOverlap_yields h threshold _ _).bind ?_
        rintro ⟨threshold', merged⟩ hmerged
        generalize first :: rest = right at hmerged ⊢
        calc (left.take start ++ merged ++ right.drop stop).Perm
              (left.take start ++ (left.drop start ++ right.take stop) ++ right.drop stop) :=
              (hmerged.append_left _).append_right _
          _ = left ++ right := by
              rw [← List.append_assoc, List.take_append_drop, List.append_assoc,
                List.take_append_drop]

end Merge

section Runs

/-- The items of the runs that wait to be merged. -/
def waiting (runs : List (Pending α)) : List α :=
  runs.flatMap (·.items)

theorem waiting_cons (p : Pending α) (runs : List (Pending α)) :
    waiting (p :: runs) = p.items ++ waiting runs :=
  List.flatMap_cons

theorem join_yields (h : ∀ x y, FailsWith P (lt x y)) (threshold : Nat) (p q : Pending α) :
    Yields P (·.2.items.Perm (p.items ++ q.items)) (p.join lt threshold q) :=
  (mergeRuns_yields h threshold p.items q.items).bind fun _ hmerged => hmerged

/-- Two neighbouring runs may be replaced by what they are merged into. -/
theorem waiting_join {p q joined : Pending α} (hjoined : joined.items.Perm (p.items ++ q.items))
    (rest : List (Pending α)) : (waiting (joined :: rest)).Perm (waiting (q :: p :: rest)) := by
  rw [waiting_cons, waiting_cons, waiting_cons, ← List.append_assoc]
  exact (hjoined.trans List.perm_append_comm).append_right _

theorem collapse_yields (h : ∀ x y, FailsWith P (lt x y)) (power : Nat) :
    ∀ (runs : List (Pending α)) threshold last,
      Yields P (fun r => (waiting r.2).Perm (waiting (last :: runs)))
        (collapse lt power threshold last runs)
  | [], _, _ => .refl _
  | p :: rest, threshold, last => by
    unfold collapse
    split
    · refine (join_yields h threshold p last).bind ?_
      rintro ⟨threshold', joined⟩ hjoined
      exact (collapse_yields h power rest threshold' joined).imp
        fun r hr => hr.trans (waiting_join hjoined rest)
    · exact .refl _

theorem push_yields (h : ∀ x y, FailsWith P (lt x y)) (total threshold : Nat)
    (runs : List (Pending α)) (items : List α) :
    Yields P (fun r => (waiting r.2).Perm (items ++ waiting runs))
      (push lt total threshold runs items) := by
  unfold push
  split
  · exact .refl _
  · refine (collapse_yields h _ _ threshold _).bind ?_
    rintro ⟨threshold', collapsed⟩ hcollapsed
    dsimp only
    split
    · exact hcollapsed.append_left items
    · exact hcollapsed.append_left items

theorem collapseAll_yields (h : ∀ x y, FailsWith P (lt x y)) :
    ∀ fuel threshold (runs : List (Pending α)), runs.length ≤ fuel →
      Yields P (·.Perm (waiting runs)) (collapseAll lt fuel threshold runs) := by
  intro fuel threshold runs
  fun_induction collapseAll lt fuel threshold runs with
  | case1 => exact fun _ => .refl _
  | case2 fuel threshold p =>
    intro _
    rw [waiting_cons]
    exact .of_eq (List.append_nil _).symm
  | case3 threshold runs hempty hsingle =>
    intro hfuel
    exact absurd (List.length_eq_zero_iff.mp (Nat.le_zero.mp hfuel)) hempty
  | case4 fuel threshold r q p rest hshorter ih =>
    intro hfuel
    refine (join_yields h threshold p q).bind ?_
    rintro ⟨threshold', joined⟩ hjoined
    refine (ih threshold' joined (Nat.le_of_succ_le_succ hfuel)).imp fun s hs => hs.trans ?_
    rw [waiting_cons, waiting_cons r]
    exact (waiting_join hjoined rest).append_left _
  | case5 fuel threshold r q p rest hshorter ih =>
    intro hfuel
    refine (join_yields h threshold q r).bind ?_
    rintro ⟨threshold', joined⟩ hjoined
    exact (ih threshold' joined (Nat.le_of_succ_le_succ hfuel)).imp
      fun s hs => hs.trans (waiting_join hjoined _)
  | case6 fuel threshold q p ih =>
    intro hfuel
    refine (join_yields h threshold p q).bind ?_
    rintro ⟨threshold', joined⟩ hjoined
    exact (ih threshold' joined (Nat.le_of_succ_le_succ hfuel)).imp
      fun s hs => hs.trans (waiting_join hjoined [])

theorem collect_yields (h : ∀ x y, FailsWith P (lt x y)) (total least : Nat) :
    ∀ fuel threshold (runs : List (Pending α)) (items : List α), items.length ≤ fuel →
      Yields P (fun r => (waiting r.2).Perm (waiting runs ++ items))
        (collect lt total least fuel threshold runs items)
  | 0, _, runs, items, hfuel => by
    rw [List.length_eq_zero_iff.mp (Nat.le_zero.mp hfuel), List.append_nil]
    exact .refl _
  | fuel + 1, threshold, runs, items, hfuel => by
    unfold collect
    split
    · rename_i hempty
      rw [List.isEmpty_iff.mp hempty, List.append_nil]
      exact .refl _
    · rename_i hitems
      refine (splitRun_yields h items).bind ?_
      rintro ⟨run, rest⟩ ⟨hsplit, hshorter⟩
      refine (placeAll_yields h _ run).bind fun filled hfilled => ?_
      refine (push_yields h total threshold runs filled).bind ?_
      rintro ⟨threshold', pushed⟩ hpushed
      have hrest : (rest.drop (least - run.length)).length ≤ fuel := by
        have hlength : rest.length < items.length :=
          hshorter fun hnil => hitems (List.isEmpty_iff.mpr hnil)
        rw [List.length_drop]
        omega
      refine (collect_yields h total least fuel threshold' pushed _ hrest).imp
        fun r hr => hr.trans ?_
      calc (waiting pushed ++ rest.drop (least - run.length)).Perm
            (waiting runs ++ filled ++ rest.drop (least - run.length)) :=
            (hpushed.trans List.perm_append_comm).append_right _
        _ |>.Perm (waiting runs ++ (run ++ rest.take (least - run.length)) ++
            rest.drop (least - run.length)) := (hfilled.append_left _).append_right _
        _ = waiting runs ++ (run ++ rest) := by
            rw [List.append_assoc, List.append_assoc, List.take_append_drop]
        _ |>.Perm (waiting runs ++ items) := hsplit.append_left _

/-- **Sorting by runs fails only as its comparisons do**, and otherwise only rearranges. -/
theorem sortByRuns_yields (h : ∀ x y, FailsWith P (lt x y)) (items : List α) :
    Yields P (·.Perm items) (sortByRuns lt items) := by
  unfold sortByRuns
  refine (collect_yields h _ _ _ _ [] items (Nat.le_refl _)).bind ?_
  rintro ⟨threshold, runs⟩ hruns
  exact (collapseAll_yields h _ _ runs (Nat.le_refl _)).imp
    fun r hr => hr.trans hruns

end Runs

end Sorting

end Docstore
