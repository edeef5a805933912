import Docstore.Store.Container

/-!
# Registries

A registry (`ContainerRegistry`) finds the container of a model by the model's name, and, if it is
told to, by that name with an `s` at its end.  It keeps whatever it was given; that something is no
container is found when it is asked for.
-/

namespace Docstore

/-- What stands under a name: a container, or something else. -/
inductive Registered where
  | container (c : Container)
  /-- A value in place of a container; nothing counts as no entry. -/
  | value (v : Value)
  /-- An object of a type with this name that lacks operations of a container. -/
  | incomplete (typeName : String)

/-- Containers by the names of models, in the order in which they were given. -/
structure Registry where
  entries : List (String × Registered)
  usePlural : Bool := false

namespace Registry

/-- The entry under a name that a value says. -/
def entry? (r : Registry) (model : Value) : Except Fault (Option (String × Registered)) :=
  if model.isKey then
    .ok (model.text?.bind fun name => r.entries.find? (·.1 == name))
  else .error (.wrongType none)

/-- The entry under a name that a value says, which has to be there. -/
def entry (r : Registry) (model : Value) : Except Fault (String × Registered) := do
  match ← r.entry? model with
  | some found => .ok found
  | none => .error (.missingKey (some model))

def contains (r : Registry) (model : Value) : Except Fault Bool :=
  return (← r.entry? model).isSome

/-- The entry that counts as one. -/
def present? (r : Registry) (model : Value) : Except Fault (Option Registered) := do
  match ← r.entry? model with
  | some (_, .value .null) => return none
  | some (_, found) => return some found
  | none => return none

/-- What is wrong with the container of a model, where the model can be named. -/
def complaint (model : Value) (words : String) : Fault :=
  match model.plainText with
  | .ok name => .refusal (.configuration ("Container \"" ++ name ++ "\" " ++ words) model)
  | .error e => e

def notFound (model : Value) : Fault :=
  complaint model "not found. Please provide a container for the model in the adapter registry."

/-- The fault of a model whose entry is no container. -/
def notContainer (model : Value) (typeName : String) : Fault :=
  complaint model ("is not a valid container store (got " ++ typeName ++ ").")

/-- The container of a model (`resolve`). -/
def resolve (r : Registry) (model : Value) : Except Fault Container := do
  let found ← match ← r.present? model with
    | some found => pure (some found)
    | none =>
      if r.usePlural then do
        let name ← model.plainText
        r.present? (.str (name ++ "s"))
      else pure none
  match found with
  | none => .error (notFound model)
  | some (.container c) => .ok c
  | some (.value v) => .error (notContainer model v.typeName)
  | some (.incomplete typeName) => .error (notContainer model typeName)

end Registry

end Docstore
