import RecordDerive.Text.Segments

/-!
# Declarations

A declaration is what rounds collect: the handle its host knows it by, its name,
and its fields in the order of the constructor's parameters.
-/

namespace RecordDerive

/-- A field: its name and the text of its type. -/
structure Field where
  name : String
  type : String
  deriving Repr, DecidableEq

namespace Field

/-- Whether the field is named by its position, that is, by decimal digits. -/
def isPositional (field : Field) : Bool :=
  !field.name.isEmpty && field.name.toList.all Char.isDigit

end Field

/-- A declaration under a handle. -/
structure Declaration (H : Type) where
  handle : H
  /-- The enclosing package, possibly none. -/
  package : String
  /-- The name in the package; that of a nested declaration has several
  segments. -/
  name : String
  fields : List Field
  deriving Repr, DecidableEq

namespace Declaration

variable {H : Type}

/-- The name with its package. -/
def qualifiedName (declaration : Declaration H) : String :=
  Text.qualify declaration.package declaration.name

/-- The number of fields. -/
def arity (declaration : Declaration H) : Nat :=
  declaration.fields.length

/-- Whether two declarations have the same qualified name and fields, whatever
their handles. -/
def sameStructure {O : Type} (declaration : Declaration H) (other : Declaration O) : Bool :=
  declaration.qualifiedName == other.qualifiedName && declaration.fields == other.fields

end Declaration

end RecordDerive
