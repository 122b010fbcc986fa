/-!
# Type references

A type reference names classes through the name table of the class it occurs in.
References nest; `TypeRef.depth` counts the levels, and both reading and
rendering stop at `maxDepth` of them.
-/

namespace RecordDerive.Metadata

/-- The type of a constructor parameter. -/
inductive TypeRef
  /-- A class by its index among the qualified names, with type arguments. -/
  | named (name : UInt32) (arguments : List TypeRef) (nullable : Bool)
  /-- A generic parameter by its index among the strings. -/
  | parameter (name : UInt32)
  | tuple (elements : List TypeRef)
  | array (element : TypeRef) (length : UInt64)
  deriving Repr, Inhabited

namespace TypeRef

/-- The number of levels of references that are read or rendered. -/
def maxDepth : Nat := 32

/-- A class without arguments. -/
def ofClass (name : UInt32) : TypeRef :=
  .named name [] false

mutual

/-- The leftmost generic parameter in a type. -/
def findParameter : TypeRef → Option UInt32
  | .named _ arguments _ => findParameterIn arguments
  | .parameter name => some name
  | .tuple elements => findParameterIn elements
  | .array element _ => element.findParameter

/-- The leftmost generic parameter in a list of types. -/
def findParameterIn : List TypeRef → Option UInt32
  | [] => none
  | first :: rest => first.findParameter <|> findParameterIn rest

end

mutual

/-- The levels of references in a type. -/
def depth : TypeRef → Nat
  | .named _ arguments _ => depthOf arguments + 1
  | .parameter _ => 1
  | .tuple elements => depthOf elements + 1
  | .array element _ => element.depth + 1

/-- The levels of references in the deepest of some types. -/
def depthOf : List TypeRef → Nat
  | [] => 0
  | first :: rest => max first.depth (depthOf rest)

end

mutual

/-- Equality of types is decided level by level. -/
def decideEq : (left right : TypeRef) → Decidable (left = right)
  | .named name arguments nullable, .named name' arguments' nullable' =>
    match decideEqList arguments arguments' with
    | isTrue same =>
      if other : name = name' ∧ nullable = nullable' then
        isTrue (by rw [same, other.1, other.2])
      else isFalse (by intro equal; injection equal; exact other ⟨‹_›, ‹_›⟩)
    | isFalse different => isFalse (by intro equal; injection equal; exact different ‹_›)
  | .parameter name, .parameter name' =>
    if same : name = name' then isTrue (by rw [same])
    else isFalse (by intro equal; injection equal; exact same ‹_›)
  | .tuple elements, .tuple elements' =>
    match decideEqList elements elements' with
    | isTrue same => isTrue (by rw [same])
    | isFalse different => isFalse (by intro equal; injection equal; exact different ‹_›)
  | .array element length, .array element' length' =>
    match decideEq element element' with
    | isTrue same =>
      if other : length = length' then isTrue (by rw [same, other])
      else isFalse (by intro equal; injection equal; exact other ‹_›)
    | isFalse different => isFalse (by intro equal; injection equal; exact different ‹_›)
  | .named .., .parameter .. | .named .., .tuple .. | .named .., .array ..
  | .parameter .., .named .. | .parameter .., .tuple .. | .parameter .., .array ..
  | .tuple .., .named .. | .tuple .., .parameter .. | .tuple .., .array ..
  | .array .., .named .. | .array .., .parameter .. | .array .., .tuple .. =>
    isFalse nofun

/-- Equality of lists of types is decided item by item. -/
def decideEqList : (left right : List TypeRef) → Decidable (left = right)
  | [], [] => isTrue rfl
  | [], _ :: _ => isFalse nofun
  | _ :: _, [] => isFalse nofun
  | first :: rest, first' :: rest' =>
    match decideEq first first', decideEqList rest rest' with
    | isTrue same, isTrue others => isTrue (by rw [same, others])
    | isFalse different, _ => isFalse (by intro equal; injection equal; exact different ‹_›)
    | _, isFalse different => isFalse (by intro equal; injection equal; exact different ‹_›)

end

instance : DecidableEq TypeRef := decideEq

end TypeRef

end RecordDerive.Metadata
