import RecordDerive.Metadata.NameTable

/-!
# Descriptions

The description of one declaration: what kind it is, how it was declared, its
constructors and the names it refers to.
-/

namespace RecordDerive.Metadata

/-- The kinds of declarations. -/
inductive Kind
  | struct
  | tupleStruct
  | unitStruct
  | enum
  | union
  | trait
  | object
  deriving Repr, DecidableEq

namespace Kind

/-- All kinds, in the order of their tags. -/
def all : List Kind := [.struct, .tupleStruct, .unitStruct, .enum, .union, .trait, .object]

/-- The tag of a kind. -/
def tag : Kind → Nat
  | .struct => 0
  | .tupleStruct => 1
  | .unitStruct => 2
  | .enum => 3
  | .union => 4
  | .trait => 5
  | .object => 6

/-- The word for a kind. -/
def text : Kind → String
  | .struct => "struct"
  | .tupleStruct => "tuple_struct"
  | .unitStruct => "unit_struct"
  | .enum => "enum"
  | .union => "union"
  | .trait => "trait"
  | .object => "object"

/-- Whether values of the kind consist of the fields of one constructor. -/
def isAggregate : Kind → Bool
  | .struct | .tupleStruct | .unitStruct => true
  | .enum | .union | .trait | .object => false

end Kind

/-- A set of marks on a declaration, one per bit. -/
structure Flags where
  bits : UInt32
  deriving Repr, DecidableEq

namespace Flags

/-- No mark. -/
def empty : Flags := ⟨0⟩

/-- Declared as a value made of its fields. -/
def product : Flags := ⟨1⟩

/-- Made by another generator. -/
def generated : Flags := ⟨2⟩

/-- Open to further fields. -/
def nonExhaustive : Flags := ⟨4⟩

/-- Whether every mark of the second set is in the first. -/
def contains (flags other : Flags) : Bool :=
  flags.bits &&& other.bits == other.bits

/-- The marks of either set. -/
def union (flags other : Flags) : Flags :=
  ⟨flags.bits ||| other.bits⟩

end Flags

/-- A parameter of a constructor. -/
structure Parameter where
  /-- The index of the name among the strings. -/
  name : UInt32
  type : TypeRef
  deriving Repr, DecidableEq

/-- A constructor with its parameters, in order. -/
structure Constructor where
  isPrimary : Bool
  parameters : List Parameter
  deriving Repr, DecidableEq

/-- The description of a declaration. -/
structure Description where
  /-- The index among the qualified names. -/
  name : UInt32
  kind : Kind
  flags : Flags
  constructors : List Constructor
  names : NameTable
  deriving Repr, DecidableEq

namespace Description

/-- The constructor that is marked as primary, or else the first. -/
def primaryConstructor (description : Description) : Option Constructor :=
  description.constructors.find? (·.isPrimary) <|> description.constructors.head?

/-- Whether the declaration is marked as a product and is of a kind that can be
one. -/
def isProduct (description : Description) : Bool :=
  description.flags.contains .product && description.kind.isAggregate

end Description

end RecordDerive.Metadata
