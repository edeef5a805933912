import Docstore.Fault
import Docstore.Value.Equality

/-!
# The order of values

Texts come in the order of their code points, numbers by size, octets, lists and tuples like words
in a dictionary, times by the calendar, and a set before those that contain it.  Values of different
sorts have no order, nor have two times of which only one is fixed in universal time.

Not-a-number goes before nothing and after nothing as a floating-point number; as a decimal number,
or next to one, it refuses to be ordered.
-/

namespace Docstore.Value

def isDecimal : Value → Bool
  | .decimal .. => true
  | _ => false

/-- Whether one number goes before another; decimal numbers are strict about not-a-number. -/
def numberBefore (strict : Bool) (x y : Number) : Except Fault Bool :=
  if strict && (x.isNan || y.isNan) then .error .refusedComparison else .ok (x.lt y)

/-- Whether one value without parts goes before another. -/
def atomBefore (v w : Value) : Except Fault Bool :=
  match v.text?, w.text? with
  | some s, some t => .ok (s < t)
  | _, _ =>
    match v.number?, w.number? with
    | some x, some y => numberBefore (v.isDecimal || w.isDecimal) x y
    | _, _ =>
      match v, w with
      | .bytes xs, .bytes ys => .ok (xs.map UInt8.toNat < ys.map UInt8.toNat)
      | .date c, .date d => .ok (c.ordinal < d.ordinal)
      | .uuid u, .uuid x => .ok (u.bits < x.bits)
      | .timestamp s, .timestamp t => match s.earlier? t with
        | some b => .ok b
        | none => .error (.wrongType none)
      | _, _ => .error (.wrongType none)

mutual

/-- Whether one value goes before another. -/
def before : Value → Value → Except Fault Bool
  | .list xs, .list ys | .tuple xs, .tuple ys => itemsBefore xs ys
  | .set _ xs, .set _ ys => .ok (xs.length < ys.length && compareWithin xs ys == .equal)
  | v, w => atomBefore v w

/-- Whether one sequence goes before another: by the first items that differ, or by being its
beginning. -/
def itemsBefore : List Value → List Value → Except Fault Bool
  | [], ys => .ok !ys.isEmpty
  | _ :: _, [] => .ok false
  | x :: xs, y :: ys =>
    match comparePart x y with
    | .equal => itemsBefore xs ys
    | .different => before x y
    | .refused => .error .refusedComparison

end

end Docstore.Value
