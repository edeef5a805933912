import Docstore.Value.Mapping

/-!
# Mutations

A mutation gives new values to some fields of a document.  Applying it (`apply_mutation`) sets the
fields that are missing or hold a different value, and tells whether there were any.
-/

namespace Docstore.Mutation

/-- Applies new values to the fields of a document, and remembers whether one changed. -/
def setFields (fields : List (Value × Value)) (changed : Bool) :
    List (Value × Value) → Except Fault (List (Value × Value) × Bool)
  | [] => .ok (fields, changed)
  | (name, value) :: rest =>
    match Value.lookup name fields with
    | none => setFields (Value.insert name value fields) true rest
    | some old =>
      match old.compare value with
      | .equal => setFields fields changed rest
      | .different => setFields (Value.insert name value fields) true rest
      | .refused => .error .refusedComparison

/-- The fields of a document after a mutation, and whether one changed. -/
def apply (document mutation : Value) : Except Fault (List (Value × Value) × Bool) := do
  let fields ← document.mapping
  let changes ← mutation.entries
  setFields fields false changes

end Docstore.Mutation
