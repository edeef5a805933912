import Docstore.Query.Statement
import Docstore.Store.Boundary

/-!
# Containers

A container (`ContainerStore`) is one collection of documents of a store.  Five operations reach it:
a document is created, replaced or deleted, a query is answered in pages, and a batch of writes is
submitted.

A query's pages come one at a time, and each may be the last, or not come at all.  The two ways of
reading them are to take all and to take them up to the first that is not empty; both tell how many
pages were handed out.  A stream that ends or breaks is closed by that; a reader that stops before
closes it.

Main statements: taking all pages concatenates them (`PageStream.all_ofPages`), and the first
document is the first of the concatenation (`PageStream.first_ofPages`).
-/

namespace Docstore

/-- The pages that answer a query. -/
inductive PageStream where
  | done
  /-- The next page does not come, or, if it was begun, is handed out and cannot be read. -/
  | broken (begun : Bool) (e : Failure)
  /-- A page, and what comes after it. -/
  | page (items : List Value) (rest : PageStream)

/-- A reading of a stream: how many pages were handed out, whether the stream is closed, and what
the reading came to. -/
structure Drain (α : Type) where
  pulled : Nat
  closed : Bool
  result : Except Failure α

namespace Drain

variable {α β : Type}

/-- The reading of a stream that breaks. -/
def failing (begun : Bool) (e : Failure) : Drain α :=
  ⟨if begun then 1 else 0, true, .error e⟩

/-- The reading with one page more before it. -/
def afterPage (d : Drain α) : Drain α :=
  { d with pulled := d.pulled + 1 }

def map (f : α → β) (d : Drain α) : Drain β :=
  ⟨d.pulled, d.closed, d.result.map f⟩

/-- The reading after which the stream is closed, however it came out. -/
def closing (d : Drain α) : Drain α :=
  { d with closed := true }

end Drain

namespace PageStream

/-- The pages in order, where there is no failure. -/
def ofPages : List (List Value) → PageStream
  | [] => done
  | items :: rest => page items (ofPages rest)

def pages : PageStream → Drain (List (List Value))
  | done => ⟨0, true, .ok []⟩
  | broken begun e => .failing begun e
  | page items rest => (rest.pages.map (items :: ·)).afterPage

def all (s : PageStream) : Drain (List Value) :=
  s.pages.map List.flatten

/-- Reads up to the first document, if there is one, and leaves the stream there. -/
def first : PageStream → Drain (Option Value)
  | done => ⟨0, true, .ok none⟩
  | broken begun e => .failing begun e
  | page (v :: _) _ => ⟨1, false, .ok (some v)⟩
  | page [] rest => rest.first.afterPage

theorem pages_ofPages (pages : List (List Value)) :
    (ofPages pages).pages = ⟨pages.length, true, .ok pages⟩ := by
  induction pages with
  | nil => rfl
  | cons items rest ih =>
    simp [ofPages, PageStream.pages, ih, Drain.map, Drain.afterPage, Except.map]

theorem all_ofPages (pages : List (List Value)) :
    (ofPages pages).all = ⟨pages.length, true, .ok pages.flatten⟩ := by
  simp [all, pages_ofPages, Drain.map, Except.map]

theorem first_ofPages (pages : List (List Value)) :
    (ofPages pages).first.result = .ok pages.flatten.head? := by
  induction pages with
  | nil => rfl
  | cons items rest ih =>
    cases items with
    | nil => simpa [ofPages, first, Drain.afterPage] using ih
    | cons v others => simp [ofPages, first]

end PageStream

/-- One collection of documents of a store. -/
structure Container where
  name : String
  create : (body : Value) → Run Value
  query : Query → (maxItems : Option Int) → PageStream
  replace : (item partitionKey body : Value) → Run Value
  delete : (item partitionKey : Value) → Run Unit
  bulk : List Operation → Run Value

namespace Container

def request (c : Container) (r : Request) : Run Unit :=
  Run.emit (.request c.name r)

/-- Creates a document and gives the stored copy. -/
def createItem (c : Container) (body : Value) : Run Value := do
  c.request (.create body)
  c.create body

/-- Replaces a document and gives the stored copy. -/
def replaceItem (c : Container) (item partitionKey body : Value) : Run Value := do
  c.request (.replace item partitionKey body)
  c.replace item partitionKey body

def deleteItem (c : Container) (item partitionKey : Value) : Run Unit := do
  c.request (.delete item partitionKey)
  c.delete item partitionKey

/-- Submits a batch and gives the reported statuses. -/
def executeBulk (c : Container) (operations : List Operation) : Run Value := do
  c.request (.bulk operations)
  c.bulk operations

/-- Reads the answer to a query in a given way. -/
def reading {α : Type} (c : Container) (q : Query) (maxItems : Option Int)
    (read : PageStream → Drain α) : Run α :=
  let d := read (c.query q maxItems)
  let limit := match maxItems with
    | some n => Value.int n
    | none => .null
  let parameters := q.parameters.map Parameter.report
  ⟨d.result, [.request c.name (.query q.statement parameters limit d.pulled d.closed)]⟩

def queryPages (c : Container) (q : Query) (maxItems : Option Int) : Run (List (List Value)) :=
  c.reading q maxItems PageStream.pages

def queryAll (c : Container) (q : Query) (maxItems : Option Int) : Run (List Value) :=
  c.reading q maxItems PageStream.all

/-- The first document that answers a query; the stream is closed after it. -/
def queryFirst (c : Container) (q : Query) (maxItems : Option Int) : Run (Option Value) :=
  c.reading q maxItems fun s => s.first.closing

end Container

end Docstore
