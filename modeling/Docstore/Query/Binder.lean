import Docstore.Value.CanonicalKey
import Docstore.Value.Mapping

/-!
# Binders

A binder hands out a placeholder for every literal of one query.  Literals with the same canonical
key share a placeholder.  Placeholders are numbered in the order in which their literals came, so a
binder (`ParameterBinder`) is no more than the list of the keys and store forms of its literals.

Main statement: binding only adds to the end, one entry at most (`bind_bound`).
-/

namespace Docstore

structure Parameter where
  name : String
  value : Value

def Parameter.report (p : Parameter) : Value :=
  .dict [(.str "name", .str p.name), (.str "value", p.value)]

/-- A literal of a query: its canonical key and the data that it is stored as. -/
structure Literal where
  key : String
  value : Value

/-- The literals bound so far, in order. -/
structure Binder where
  bound : List Literal := []

namespace Binder

/-- What the names of placeholders start with. -/
def stem : String := "@param"

def placeholder (number : Nat) : String :=
  stem ++ Text.ofNat number

/-- A literal for a value. -/
def literal (v : Value) : Except Fault Literal := do
  let key ← v.canonicalKey
  let value ← v.storedData
  return ⟨key, value⟩

/-- The placeholder for a literal, and the binder that knows it. -/
def allot (b : Binder) (l : Literal) : String × Binder :=
  match b.bound.findIdx? (·.key == l.key) with
  | some number => (placeholder number, b)
  | none => (placeholder b.bound.length, ⟨b.bound ++ [l]⟩)

def bind (b : Binder) (v : Value) : Except Fault (String × Binder) :=
  (literal v).map b.allot

def size (b : Binder) : Nat :=
  b.bound.length

/-- The parameters, in the order of their numbers. -/
def parameters (b : Binder) : List Parameter :=
  b.bound.zipIdx.map fun (l, number) => ⟨placeholder number, l.value⟩

/-- The parameter that a name stands for: the number behind the stem counts from the first
parameter, or, if it is negative, back from the end. -/
def parameter (b : Binder) (name : String) : Except Fault Parameter := do
  let number ← (Value.str (String.ofList (name.toList.drop stem.length))).toInt
  Value.itemAt .list b.parameters number

theorem allot_bound (b : Binder) (l : Literal) :
    (b.allot l).2.bound = b.bound ∨ (b.allot l).2.bound = b.bound ++ [l] := by
  unfold allot
  split
  · exact .inl rfl
  · exact .inr rfl

/-- Binding keeps what was bound and adds one literal at most. -/
theorem bind_bound {b b' : Binder} {v : Value} {name : String} (h : b.bind v = .ok (name, b')) :
    b'.bound = b.bound ∨ ∃ l, literal v = .ok l ∧ b'.bound = b.bound ++ [l] := by
  unfold bind at h
  cases hl : literal v with
  | error e => simp [hl, Except.map] at h
  | ok l =>
    simp only [hl, Except.map, Except.ok.injEq] at h
    rcases allot_bound b l with hb | hb
    · exact .inl (by rw [← hb, h])
    · exact .inr ⟨l, rfl, by rw [← hb, h]⟩

end Binder

end Docstore
