import Tiered.Failure

/-!
# Assign — assigning to the attributes of a record

The fields of a record cannot be assigned one by one, but a table can take the place of all of them
and then need not have every field.  Names that begin with an underscore are no fields, and most of
them can be assigned; a few belong to every record and take no value, or only one of a certain kind.
-/

namespace Tiered.Schema

/-- The attributes that all records of one title have in common. -/
def sharedAttributes : List String :=
  ["__class_vars__", "__private_attributes__", "__signature__"]

/-- The fields of a record with a title after a value is assigned to a name. -/
def assign (title : String) (fields : Entries) (name : Text) (v : Value) :
    Except Failure Entries :=
  if name = "__class__" then
    match v with
    | .foreign thing => .error (.assignment
        (if thing.names?.isSome then .otherKind else .noKind thing.fullKind))
    | v => .error (.assignment (.noKind v.fullKind))
  else if name = "__dict__" then
    match v with
    | .table others => .ok others
    | v => .error (.assignment (.noTable v.fullKind))
  else if name = "__fields_set__" then .error (.assignment (.computed title name.string))
  else if name = "__weakref__" then .error (.assignment (.fixed title name.string))
  else if sharedAttributes.contains name.string then
    .error (.assignment (.shared title name.string))
  else if name.numbers.head? = some '_'.toNat then .ok fields
  else .error (.invalidRecord ⟨title, [⟨some name.string, .frozen, v⟩]⟩)

/-- The fields with the given names, unless the record with a title lacks one of them. -/
def attributes (title : String) (names : List Value) (fields : Entries) :
    Except Failure Entries :=
  names.mapM fun name => match Entries.get? fields name with
    | some v => .ok (name, v)
    | none => .error (.noAttribute (.foreign ⟨title, title, title, "", false, none⟩)
        (Failure.plain name))

end Tiered.Schema
