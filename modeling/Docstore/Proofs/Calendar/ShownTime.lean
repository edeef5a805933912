import Docstore.Proofs.Text.Listed
import Docstore.Value.Display

/-!
# Shown times determine the times

A date is shown by three numbers and a timestamp by five to seven, of which the last are left out if
they are zero, and by its offset.  The offset is a span: days, seconds and microseconds, each under
its name and left out where it is zero.  So the numbers are found by their places, and the parts of a
span by their names.

* `Timestamp.spanText_append_injective` — a shown span determines the span.
* `Date.display_append_injective`, `Timestamp.display_append_injective` — a shown time, with anything
  behind it, determines the time and what is behind it.
-/

namespace Docstore

open Text

namespace Date

theorem display_toList (d : Date) : d.display.toList =
    "datetime.date(".toList ++ (numbers [d.year, d.month, d.day] ++ [')']) := by
  simp [display, numbers]

/-- **A shown date determines the date**, and what stands behind it. -/
theorem display_append_injective {d e : Date} {r s : List Char}
    (h : d.display.toList ++ r = e.display.toList ++ s) : d = e ∧ r = s := by
  rw [display_toList, display_toList, List.append_assoc, List.append_assoc, List.append_assoc,
    List.append_assoc] at h
  have hend : ¬IsNumbersChar ')' := by decide
  obtain ⟨hnumbers, -, hrest⟩ := append_span_injective hend hend (numbers_chars _) (numbers_chars _)
    (List.append_cancel_left h)
  have hlist := numbers_injective hnumbers
  simp only [List.cons.injEq, and_true] at hlist
  obtain ⟨hyear, hmonth, hday⟩ := hlist
  cases d
  cases e
  exact ⟨by simp_all, hrest⟩

end Date

namespace Timestamp

/-! ## Spans -/

/-- The days of a span. -/
def spanDays (span : Int) : Int :=
  span.fdiv (86400 * perSecond : Nat)

/-- The microseconds of a span behind its days. -/
def spanRest (span : Int) : Nat :=
  (span - spanDays span * (86400 * perSecond : Nat)).toNat

/-- The days, the seconds and the microseconds together are the span. -/
theorem span_eq (span : Int) : span = spanDays span * (86400 * perSecond : Nat) +
    (spanRest span / perSecond * perSecond + spanRest span % perSecond : Nat) := by
  have hdays : spanDays span = span / 86400000000 :=
    Int.fdiv_eq_ediv_of_nonneg span (by decide)
  have hrest : spanRest span = (span - spanDays span * 86400000000).toNat := rfl
  rw [Nat.div_add_mod']
  rw [hrest, hdays]
  simp only [perSecond]
  omega

/-- A part of a span under its name, unless it is zero. -/
def spanPart (name : String) (n : Int) : List (List Char) :=
  if n = 0 then [] else [name.toList ++ '=' :: (ofInt n).toList]

/-- The parts of a span that are shown. -/
def spanParts (span : Int) : List (List Char) :=
  spanPart "days" (spanDays span) ++ (spanPart "seconds" (spanRest span / perSecond : Nat) ++
    spanPart "microseconds" (spanRest span % perSecond : Nat))

/-- What stands between the brackets of a shown span: its parts, or a zero. -/
def spanShown (span : Int) : List (List Char) :=
  if (spanParts span).isEmpty then [['0']] else spanParts span

theorem mem_spanPart {name : String} {n : Int} {p : List Char} (h : p ∈ spanPart name n) :
    p = name.toList ++ '=' :: (ofInt n).toList := by
  unfold spanPart at h
  split at h
  · cases h
  · exact List.mem_singleton.mp h

/-- A part stands in front of parts with other names. -/
theorem spanPart_append_injective {name : String} {m n : Int} {ps qs : List (List Char)}
    (hps : ∀ p ∈ ps, ¬name.toList <+: p) (hqs : ∀ q ∈ qs, ¬name.toList <+: q)
    (h : spanPart name m ++ ps = spanPart name n ++ qs) : m = n ∧ ps = qs := by
  have hnamed : ∀ (k : Int) {rest others : List (List Char)}, (∀ p ∈ others, ¬name.toList <+: p) →
      (name.toList ++ '=' :: (ofInt k).toList) :: rest ≠ others := by
    rintro k rest _ hothers rfl
    exact hothers _ List.mem_cons_self (List.prefix_append _ _)
  unfold spanPart at h
  by_cases hm : m = 0 <;> by_cases hn : n = 0
  · rw [if_pos hm, if_pos hn] at h
    exact ⟨hm.trans hn.symm, h⟩
  · rw [if_pos hm, if_neg hn] at h
    exact absurd h.symm (hnamed n hps)
  · rw [if_neg hm, if_pos hn] at h
    exact absurd h (hnamed m hqs)
  · rw [if_neg hm, if_neg hn] at h
    obtain ⟨hpart, hrest⟩ := List.cons.inj h
    exact ⟨Json.ofInt_injective (List.cons.inj (List.append_cancel_left hpart)).2, hrest⟩

/-- The parts of a span determine it. -/
theorem spanParts_injective {x y : Int} (h : spanParts x = spanParts y) : x = y := by
  have hseconds : ∀ (m n : Int), ∀ p ∈ spanPart "seconds" m ++ spanPart "microseconds" n,
      ¬"days".toList <+: p := by
    intro m n p hp
    rcases List.mem_append.mp hp with hp | hp <;> rw [mem_spanPart hp] <;> simp
  have hmicroseconds : ∀ n : Int, ∀ p ∈ spanPart "microseconds" n, ¬"seconds".toList <+: p := by
    intro n p hp
    rw [mem_spanPart hp]
    simp
  obtain ⟨hdays, hrest⟩ := spanPart_append_injective (hseconds _ _) (hseconds _ _) h
  obtain ⟨hsecond, hmicro⟩ := spanPart_append_injective (hmicroseconds _) (hmicroseconds _) hrest
  obtain ⟨hmicrosecond, -⟩ := spanPart_append_injective (by simp) (by simp)
    (congrArg (· ++ []) hmicro)
  rw [span_eq x, span_eq y, hdays, Int.ofNat_inj.mp hsecond, Int.ofNat_inj.mp hmicrosecond]

/-- A shown zero is no part. -/
theorem spanShown_injective {x y : Int} (h : spanShown x = spanShown y) : x = y := by
  have hzero : ∀ span, spanParts span ≠ [['0']] := by
    intro span hspan
    have hmem : ['0'] ∈ spanParts span := by
      rw [hspan]
      exact List.mem_cons_self
    unfold spanParts at hmem
    rcases List.mem_append.mp hmem with hmem | hmem
    · exact absurd (mem_spanPart hmem) (by simp)
    rcases List.mem_append.mp hmem with hmem | hmem <;>
      exact absurd (mem_spanPart hmem) (by simp)
  refine spanParts_injective ?_
  unfold spanShown at h
  split at h <;> split at h
  · rw [List.isEmpty_iff.mp ‹(spanParts x).isEmpty = true›,
      List.isEmpty_iff.mp ‹(spanParts y).isEmpty = true›]
  · exact absurd h.symm (hzero y)
  · exact absurd h (hzero x)
  · exact h

theorem spanShown_inner (span : Int) : ∀ p ∈ spanShown span, ∀ c ∈ p, IsInner c := by
  have hpart : ∀ {name : String} {n : Int}, (∀ c ∈ name.toList, IsInner c) →
      ∀ p ∈ spanPart name n, ∀ c ∈ p, IsInner c := by
    intro name n hname p hp c hc
    rw [mem_spanPart hp] at hc
    rcases List.mem_append.mp hc with hc | hc
    · exact hname c hc
    rcases List.mem_cons.mp hc with rfl | hc
    · decide
    · exact isInner_of_mem_ofInt hc
  intro p hp
  unfold spanShown at hp
  split at hp
  · rw [List.mem_singleton.mp hp]
    simp [IsInner]
  · unfold spanParts at hp
    rcases List.mem_append.mp hp with hp | hp
    · exact hpart (by simp [IsInner]) p hp
    rcases List.mem_append.mp hp with hp | hp <;> exact hpart (by simp [IsInner]) p hp

theorem spanText_toList (span : Int) : ∃ t ts, spanShown span = t :: ts ∧
    (spanText span).toList = "datetime.timedelta(".toList ++ (t ++ listedRest ts ++ [')']) := by
  have hshown : ∃ shown : List String, shown.map String.toList = spanParts span ∧
      spanText span = "datetime.timedelta(" ++
        (if shown.isEmpty then "0" else ", ".intercalate shown) ++ ")" := by
    refine ⟨_, ?_, rfl⟩
    show List.map String.toList (List.filterMap _ [("days", ofInt (spanDays span),
      spanDays span != 0), ("seconds", ofNat (spanRest span / perSecond),
      spanRest span / perSecond != 0), ("microseconds", ofNat (spanRest span % perSecond),
      spanRest span % perSecond != 0)]) = _
    unfold spanParts spanPart
    generalize spanDays span = days, spanRest span / perSecond = seconds,
      spanRest span % perSecond = microseconds
    by_cases hd : days = 0 <;> by_cases hs : seconds = 0 <;> by_cases hm : microseconds = 0 <;>
      simp [hd, hs, hm, ofInt_natCast]
  obtain ⟨shown, hparts, htext⟩ := hshown
  unfold spanShown
  rw [← hparts, htext]
  cases shown with
  | nil => exact ⟨['0'], [], rfl, by simp [listedRest]⟩
  | cons part parts =>
    refine ⟨part.toList, parts.map String.toList, rfl, ?_⟩
    rw [String.toList_append, String.toList_append, ← toList_listed, List.append_assoc]
    rfl

/-- **A shown span determines the span**, and what stands behind it. -/
theorem spanText_append_injective {x y : Int} {r s : List Char}
    (h : (spanText x).toList ++ r = (spanText y).toList ++ s) : x = y ∧ r = s := by
  obtain ⟨t, ts, hx, htext⟩ := spanText_toList x
  obtain ⟨u, us, hy, htext'⟩ := spanText_toList y
  rw [htext, htext', List.append_assoc, List.append_assoc _ _ s] at h
  have hrest : t ++ listedRest ts ++ ')' :: r = u ++ listedRest us ++ ')' :: s := by
    simpa only [List.append_assoc, List.cons_append, List.nil_append] using
      List.append_cancel_left h
  obtain ⟨hsame, hrs⟩ := listed_injective (hx ▸ spanShown_inner x) (hy ▸ spanShown_inner y) hrest
  exact ⟨spanShown_injective (hx.trans (hsame.trans hy.symm)), hrs⟩

/-! ## Offsets -/

/-- What stands behind the name of an offset's type. -/
def zoneText (offset : Int) : List Char :=
  if offset = 0 then ".utc".toList else '(' :: ((spanText offset).toList ++ [')'])

theorem zoneText_append_injective {x y : Int} {r s : List Char}
    (h : zoneText x ++ r = zoneText y ++ s) : x = y ∧ r = s := by
  unfold zoneText at h
  by_cases hx : x = 0 <;> by_cases hy : y = 0
  · rw [if_pos hx, if_pos hy] at h
    exact ⟨hx.trans hy.symm, List.append_cancel_left h⟩
  · rw [if_pos hx, if_neg hy] at h
    exact absurd (List.cons.inj h).1 (by decide)
  · rw [if_neg hx, if_pos hy] at h
    exact absurd (List.cons.inj h).1 (by decide)
  · rw [if_neg hx, if_neg hy, List.cons_append, List.cons_append, List.append_assoc,
      List.append_assoc] at h
    obtain ⟨hspan, hrest⟩ := spanText_append_injective (List.cons.inj h).2
    exact ⟨hspan, (List.cons.inj hrest).2⟩

/-- The name of an offset and of its type, behind the first letter. -/
def zoneName : List Char :=
  "zinfo=datetime.timezone".toList

/-- What stands behind the numbers of a shown timestamp. -/
def closing (offset : Option Int) : List Char :=
  match offset with
  | none => [')']
  | some x => ',' :: ' ' :: 't' :: (zoneName ++ (zoneText x ++ [')']))

/-- The numbers of a shown timestamp end where a letter or a bracket follows. -/
theorem closing_append_injective {u v r s : List Char} {x y : Option Int}
    (hu : ∀ c ∈ u, IsNumbersChar c) (hv : ∀ c ∈ v, IsNumbersChar c)
    (h : u ++ (closing x ++ r) = v ++ (closing y ++ s)) : u = v ∧ x = y ∧ r = s := by
  have hend : ¬IsNumbersChar ')' := by decide
  have hletter : ¬IsNumbersChar 't' := by decide
  have hsplit : ∀ (w : List Char) (z : Int) (t : List Char), w ++ (closing (some z) ++ t) =
      w ++ [',', ' '] ++ 't' :: (zoneName ++ (zoneText z ++ ')' :: t)) := by
    intro w z t
    simp [closing]
  have hgap : ∀ {w : List Char}, (∀ c ∈ w, IsNumbersChar c) →
      ∀ c ∈ w ++ [',', ' '], IsNumbersChar c := by
    intro w hw c hc
    rcases List.mem_append.mp hc with hc | hc
    · exact hw c hc
    · rcases List.mem_cons.mp hc with rfl | hc
      · decide
      · rw [List.mem_singleton.mp hc]
        decide
  cases x with
  | none =>
    cases y with
    | none =>
      obtain ⟨huv, -, hrs⟩ := append_span_injective hend hend hu hv h
      exact ⟨huv, rfl, hrs⟩
    | some y =>
      rw [hsplit v y s] at h
      obtain ⟨-, hne, -⟩ := append_span_injective hend hletter hu (hgap hv) h
      exact absurd hne (by decide)
  | some x =>
    rw [hsplit u x r] at h
    cases y with
    | none =>
      obtain ⟨-, hne, -⟩ := append_span_injective hletter hend (hgap hu) hv h
      exact absurd hne (by decide)
    | some y =>
      rw [hsplit v y s] at h
      obtain ⟨huv, -, hzone⟩ := append_span_injective hletter hletter (hgap hu) (hgap hv) h
      obtain ⟨hxy, hrest⟩ := zoneText_append_injective (List.append_cancel_left hzone)
      exact ⟨List.append_cancel_right huv, congrArg some hxy, (List.cons.inj hrest).2⟩

/-! ## Timestamps -/

/-- The seconds and microseconds that are shown. -/
def fineNumbers (t : Timestamp) : List Nat :=
  if t.microsecond ≠ 0 then [t.second, t.microsecond]
  else if t.second ≠ 0 then [t.second] else []

theorem fineNumbers_injective {t u : Timestamp} (h : t.fineNumbers = u.fineNumbers) :
    t.second = u.second ∧ t.microsecond = u.microsecond := by
  unfold fineNumbers at h
  by_cases ht : t.microsecond = 0 <;> by_cases hu : u.microsecond = 0 <;>
    by_cases ht' : t.second = 0 <;> by_cases hu' : u.second = 0 <;> simp_all

/-- The numbers that a timestamp is shown by. -/
def shownNumbers (t : Timestamp) : List Nat :=
  t.date.year :: t.date.month :: t.date.day :: t.hour :: t.minute :: t.fineNumbers

/-- The offset of a shown timestamp, under its name. -/
def zoneShown (offset : Int) : String :=
  "tzinfo=" ++ if offset = 0 then "datetime.timezone.utc"
    else "datetime.timezone(" ++ spanText offset ++ ")"

theorem zoneShown_toList (x : Int) : (zoneShown x).toList = 't' :: (zoneName ++ zoneText x) := by
  have hutc : ("tzinfo=" ++ "datetime.timezone.utc").toList =
      't' :: (zoneName ++ ".utc".toList) := rfl
  have hbracket : "tzinfo=".toList ++ "datetime.timezone(".toList = 't' :: (zoneName ++ ['(']) :=
    rfl
  have hshown : zoneShown x = "tzinfo=" ++ if x = 0 then "datetime.timezone.utc"
    else "datetime.timezone(" ++ spanText x ++ ")" := rfl
  rw [hshown, zoneText]
  split
  · exact hutc
  · rw [String.toList_append, String.toList_append, String.toList_append, List.append_assoc,
      ← List.append_assoc, hbracket, List.cons_append, List.append_assoc]
    rfl

theorem display_toList (t : Timestamp) : t.display.toList =
    "datetime.datetime(".toList ++ (numbers t.shownNumbers ++ closing t.offset) := by
  have hdisplay : t.display = "datetime.datetime(" ++ ", ".intercalate
      (t.shownNumbers.map ofNat ++ (t.offset.map zoneShown).toList) ++ ")" := by
    unfold display
    cases t.offset <;> rfl
  rw [hdisplay, String.toList_append, String.toList_append, List.append_assoc]
  refine congrArg ("datetime.datetime(".toList ++ ·) ?_
  cases t.offset with
  | none =>
    rw [Option.map_none, Option.toList_none, List.append_nil]
    rfl
  | some x =>
    rw [Option.map_some, Option.toList_some, shownNumbers, List.map_cons, List.cons_append,
      toList_listed, List.map_append, List.map_map, numbers_cons, List.map_singleton,
      zoneShown_toList]
    simp [listedRest, closing, Function.comp_def]

/-- **A shown timestamp determines the timestamp**, and what stands behind it. -/
theorem display_append_injective {t u : Timestamp} {r s : List Char}
    (h : t.display.toList ++ r = u.display.toList ++ s) : t = u ∧ r = s := by
  rw [display_toList, display_toList, List.append_assoc, List.append_assoc, List.append_assoc,
    List.append_assoc] at h
  obtain ⟨hnumbers, hoffset, hrest⟩ := closing_append_injective (numbers_chars _) (numbers_chars _)
    (List.append_cancel_left h)
  have hlist := numbers_injective hnumbers
  simp only [List.cons.injEq] at hlist
  obtain ⟨hyear, hmonth, hday, hhour, hminute, hfine⟩ := hlist
  obtain ⟨hsecond, hmicrosecond⟩ := fineNumbers_injective hfine
  obtain ⟨⟨y, m, d⟩, hour, minute, second, microsecond, offset⟩ := t
  obtain ⟨⟨y', m', d'⟩, hour', minute', second', microsecond', offset'⟩ := u
  exact ⟨by simp_all, hrest⟩

end Timestamp

end Docstore
