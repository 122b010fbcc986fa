/-!
# Products and tuples

A product is a type whose values are determined by their fields.  It converts to
the tuple of its fields and back.  Tuples go up to ten elements, which bounds
the number of fields a declaration may have.
-/

namespace RecordDerive

/-- The number of elements of the largest tuple. -/
def maxArity : Nat := 10

/-- The tuples of values of some types. -/
def Tuple : List Type → Type
  | [] => Unit
  | first :: rest => first × Tuple rest

/-- A type whose values convert to the tuple of their fields. -/
class Product (α : Type) where
  /-- The types of the fields. -/
  types : List Type
  /-- The names of the fields. -/
  fieldNames : List String
  /-- The qualified name of the type. -/
  typeName : String
  intoTuple : α → Tuple types
  fromTuple : Tuple types → α

namespace Product

/-- The number of fields. -/
def arity (α : Type) [Product α] : Nat :=
  (types α).length

/-- The name of a field by its position. -/
def fieldName (α : Type) [Product α] (position : Nat) : Option String :=
  (fieldNames α)[position]?

/-- The value whose tuple is the image of this one's. -/
def mapTuple {α : Type} [Product α] (image : Tuple (types α) → Tuple (types α)) (value : α) : α :=
  fromTuple (image (intoTuple value))

end Product

end RecordDerive
