import Docstore.Store.Container

/-!
# Streams and their pages

A stream hands out pages and then ends or breaks.  Reading all of it gives the pages one after the
other, or the failure that broke it.  Reading it up to the first document passes over empty pages
and takes the first page that is not; what comes after that page is never looked at.

* `PageStream.all_broken` — a reading of all pages fails where one of them does not come.
* `PageStream.first_of_item` — a reading up to the first document stops at its page.
* `PageStream.first_of_empty` — empty pages only add to the count of pages.
-/

namespace Docstore

namespace PageStream

/-- A stream with some pages before it. -/
def before : List (List Value) → PageStream → PageStream
  | [], s => s
  | items :: rest, s => page items (before rest s)

variable {pages lead : List (List Value)} {s rest : PageStream} {begun : Bool} {e : Failure}
  {v : Value} {others : List Value}

theorem before_append (pages more : List (List Value)) (s : PageStream) :
    before (pages ++ more) s = before pages (before more s) := by
  induction pages with
  | nil => rfl
  | cons items rest ih => rw [List.cons_append, before, ih, before]

/-- A stream with a page that does not come gives no pages at all. -/
theorem pages_broken (pages : List (List Value)) (begun : Bool) (e : Failure) :
    (before pages (broken begun e)).pages.result = .error e := by
  induction pages with
  | nil => rfl
  | cons items rest ih =>
    simp only [before, PageStream.pages, Drain.afterPage, Drain.map, ih]
    rfl

/-- **A reading of all pages fails where one of them does not come.** -/
theorem all_broken (pages : List (List Value)) (begun : Bool) (e : Failure) :
    (before pages (broken begun e)).all.result = .error e := by
  simp only [all, Drain.map, pages_broken]
  rfl

/-- Empty pages only add to the count of pages. -/
theorem first_of_empty (hlead : ∀ items ∈ lead, items = []) (s : PageStream) :
    (before lead s).first = { s.first with pulled := s.first.pulled + lead.length } := by
  induction lead with
  | nil => rfl
  | cons items rest ih =>
    obtain rfl : items = [] := hlead items List.mem_cons_self
    have hrest := ih fun items h => hlead items (List.mem_cons_of_mem _ h)
    simp only [before, first, hrest, Drain.afterPage, List.length_cons]
    rw [Nat.add_assoc]

/-- **A reading up to the first document stops at its page**, whatever would come after it. -/
theorem first_of_item (hlead : ∀ items ∈ lead, items = []) (v : Value) (others : List Value)
    (rest : PageStream) :
    (before lead (page (v :: others) rest)).first = ⟨lead.length + 1, false, .ok (some v)⟩ := by
  rw [first_of_empty hlead, first, Nat.add_comm]

/-- Pages that are not all empty are empty ones, then one that is not, and others. -/
theorem exists_first_item (h : pages.flatten ≠ []) : ∃ lead v others more,
    pages = lead ++ (v :: others) :: more ∧ ∀ items ∈ lead, items = [] := by
  induction pages with
  | nil => exact absurd rfl h
  | cons items rest ih =>
    cases items with
    | cons v others => exact ⟨[], v, others, rest, rfl, fun _ hmem => absurd hmem List.not_mem_nil⟩
    | nil =>
      obtain ⟨lead, v, others, more, rfl, hlead⟩ := ih h
      refine ⟨[] :: lead, v, others, more, rfl, fun items hmem => ?_⟩
      exact (List.mem_cons.mp hmem).elim id (hlead items)

/-- The first document of pages that hold one, whatever ends the stream. -/
theorem first_result (h : pages.flatten ≠ []) (s : PageStream) :
    (before pages s).first.result = .ok pages.flatten.head? := by
  obtain ⟨lead, v, others, more, rfl, hlead⟩ := exists_first_item h
  rw [before_append, before, first_of_item hlead]
  simp [List.flatten_eq_nil_iff.mpr hlead]

/-- A failure is seen where no document comes before it. -/
theorem first_broken (h : pages.flatten = []) (begun : Bool) (e : Failure) :
    (before pages (broken begun e)).first.result = .error e := by
  rw [first_of_empty (List.flatten_eq_nil_iff.mp h)]
  rfl

end PageStream

end Docstore
