/-!
# Derived operations

The operations that can be derived for a declaration.  They are rendered in the
order given here, whatever the order they are asked for in.
-/

namespace RecordDerive.Code

/-- An operation derived field by field. -/
inductive Operation
  /-- Equality of all fields. -/
  | equality
  /-- Feeding all fields to a hasher. -/
  | hash
  /-- Showing the name and all fields. -/
  | display
  /-- Conversion to the tuple of the fields and back. -/
  | product
  deriving Repr, DecidableEq

namespace Operation

/-- All operations in the order they are rendered in. -/
def all : List Operation := [.equality, .hash, .display, .product]

/-- The operations derived if nothing else is asked for.  They need the least
of the types of fields. -/
def defaults : List Operation := [.equality, .display, .product]

/-- The name of an operation. -/
def text : Operation → String
  | .equality => "PartialEq"
  | .hash => "Hash"
  | .display => "Display"
  | .product => "Product"

/-- The operation of a name. -/
def ofText? (text : String) : Option Operation :=
  all.find? fun operation => operation.text == text

end Operation

end RecordDerive.Code
