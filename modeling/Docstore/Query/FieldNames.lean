import Docstore.Fault

/-!
# Names of fields

Queries and data name fields as their model does; the store knows them under physical names.  A
resolver (`FieldNameResolver`) gives the physical name of a model's field, unless the field keeps its
name.  Within one statement the fields of one model are meant, and references to them start with the
alias of the container.

Main statement: where the resolver answers, a field is referred to by its name in the store
(`FieldNames.reference_eq_ok`).
-/

namespace Docstore

/-- The physical name of a field of a model, if it has one of its own.  A resolver that callers
hand in may fail. -/
abbrev FieldResolver := (model field : String) → Except Fault (Option String)

namespace FieldResolver

/-- Every field keeps its name (`identity_field_resolver`). -/
def identity : FieldResolver := fun _ _ => .ok none

/-- Fields are renamed as a table of models says, and keep their names where it says nothing
(`mapping_field_resolver`). -/
def ofTable (table : List (String × List (String × String))) : FieldResolver :=
  fun model field => .ok (((table.lookup model).getD []).lookup field)

end FieldResolver

/-- How one statement refers to the fields of its model. -/
structure FieldNames where
  aliasName : String := "c"
  renamed? : String → Except Fault (Option String) := fun _ => .ok none

namespace FieldNames

/-- The name under which the store knows a field, where the resolver gives it (`field_name`). -/
def resolve (names : FieldNames) (field : String) : Except Fault String :=
  return (← names.renamed? field).getD field

/-- The reference to a field, where the resolver gives its name (`field_ref`): alias, point, physical
name. -/
def reference (names : FieldNames) (field : String) : Except Fault String :=
  return names.aliasName ++ "." ++ (← names.resolve field)

/-- The name of a field in the store; without an answer of the resolver the field's own. -/
def physical (names : FieldNames) (field : String) : String :=
  (names.resolve field).toOption.getD field

/-- The reference to a field by its name in the store. -/
def ref (names : FieldNames) (field : String) : String :=
  names.aliasName ++ "." ++ names.physical field

/-- Whether the resolver gives the name of a field. -/
def Resolves (names : FieldNames) (field : String) : Prop :=
  ∃ name, names.resolve field = .ok name

variable {names : FieldNames} {field name : String}

theorem physical_of_resolve (h : names.resolve field = .ok name) : names.physical field = name := by
  simp [physical, h, Except.toOption]

/-- A reference that is given is the one by the field's name in the store. -/
theorem reference_eq_ok {text : String} :
    names.reference field = .ok text ↔ names.Resolves field ∧ names.ref field = text := by
  unfold reference ref
  cases h : names.resolve field with
  | ok name =>
    simp [Resolves, h, physical_of_resolve h, bind, Except.bind, pure, Except.pure]
  | error e => simp [Resolves, h, bind, Except.bind]

end FieldNames

end Docstore
