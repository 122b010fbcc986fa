import RecordDerive.Code.Body
import RecordDerive.Code.Operation

/-!
# Deriving operations

Each operation treats the fields in their order.  Without fields all values are
equal, nothing is fed to a hasher, and only the parentheses of a template are
shown; parameters that are left without a use then are discarded.
-/

namespace RecordDerive.Code

open Grammar

/-- A field as generated code refers to it. -/
structure Part where
  member : Member
  label : String
  type : Phrase

/-- A declaration as generated code refers to it. -/
structure Subject where
  /-- The path to the declared type. -/
  path : Phrase
  /-- The path to the module that products are defined in. -/
  runtime : Phrase
  qualifiedName : String
  /-- The last segment of the declared name. -/
  displayName : String
  parts : List Part

namespace Derive

/-! ## Names in generated code -/

/-- A path to something of the core library. -/
def core (names : List String) : Phrase := Phrase.plainPath true ("core" :: names)

/-- A path of one name. -/
def ofName (name : String) : Phrase := Phrase.plainPath false [name]

/-- The own type. -/
def ownType : Phrase := ofName "Self"

/-- The tuple type of the own type. -/
def ownTuple : Phrase := Phrase.plainPath false ["Self", "Tuple"]

/-- A reference to a type. -/
def referenceTo (mutable : Bool) (target : Phrase) : Phrase := .reference none mutable target

/-- A reference to constant data. -/
def constantReference (target : Phrase) : Phrase := .reference (some "'static") false target

/-! ## Bodies -/

/-- A member of the value itself. -/
def own (part : Part) : Place := .member "self" part.member

/-- Whether a member agrees with that of the other value. -/
def agreement (part : Part) : Expr := .equal (own part) (.member "other" part.member)

/-- Agreement in all members. -/
def equalityBody : List Part → List Statement
  | [] => [.discard "other", .result .truth]
  | first :: rest =>
    [.result (rest.foldl (fun before part => .both before (agreement part)) (agreement first))]

/-- Members fed to a hasher one after the other. -/
def hashBody (parts : List Part) : List Statement :=
  if parts.isEmpty then [.discard "state"]
  else parts.map fun part =>
    .run (.call (core ["hash", "Hash", "hash"])
      [.borrowed (own part), .value (.whole "state")])

/-- Members shown behind their labels. -/
def displayBody (name : String) (parts : List Part) : List Statement :=
  [.result (.write "f" ⟨name, parts.map (·.label)⟩ (parts.map own))]

/-- The tuple of the members. -/
def intoTupleBody (parts : List Part) : List Statement :=
  [.result (.tuple (parts.map own))]

/-- The record whose members are the elements of a tuple, in order. -/
def fromTupleBody (parts : List Part) : List Statement :=
  let fields := parts.zipIdx.map fun (part, index) =>
    (part.member, Place.member "tuple" (.position (UInt32.ofNat index)))
  (if parts.isEmpty then [.discard "tuple"] else []) ++ [.result (.record fields)]

/-! ## Implementations -/

/-- The implementation of equality. -/
def equality (subject : Subject) : Implementation where
  interface := core ["cmp", "PartialEq"]
  subject := subject.path
  items := [
    .method {
      name := "eq"
      generics := []
      parameters := [.receiver true, .typed "other" (referenceTo false ownType)]
      output := some (ofName "bool")
      body := equalityBody subject.parts }]

/-- The implementation of hashing. -/
def hash (subject : Subject) : Implementation where
  interface := core ["hash", "Hash"]
  subject := subject.path
  items := [
    .method {
      name := "hash"
      generics := [⟨"__H", core ["hash", "Hasher"]⟩]
      parameters := [.receiver true, .typed "state" (referenceTo true (ofName "__H"))]
      output := none
      body := hashBody subject.parts }]

/-- The type that values are shown through. -/
def formatter : Phrase :=
  .path true [Phrase.plainStep "core", Phrase.plainStep "fmt",
    .step "Formatter" false [.lifetime "'_"]]

/-- The implementation of showing. -/
def display (subject : Subject) : Implementation where
  interface := core ["fmt", "Display"]
  subject := subject.path
  items := [
    .method {
      name := "fmt"
      generics := []
      parameters := [.receiver true, .typed "f" (referenceTo true formatter)]
      output := some (core ["fmt", "Result"])
      body := displayBody subject.displayName subject.parts }]

/-- The implementation of products. -/
def product (subject : Subject) : Implementation where
  interface := subject.runtime.extend "Product"
  subject := subject.path
  items := [
    .type "Tuple" (.tuple (subject.parts.map (·.type))),
    .constant "ARITY" (ofName "usize") (.number subject.parts.length),
    .constant "FIELD_NAMES" (constantReference (.slice (constantReference (ofName "str"))))
      (.texts (subject.parts.map (·.label))),
    .constant "TYPE_NAME" (constantReference (ofName "str")) (.text subject.qualifiedName),
    .method {
      name := "into_tuple"
      generics := []
      parameters := [.receiver false]
      output := some ownTuple
      body := intoTupleBody subject.parts },
    .method {
      name := "from_tuple"
      generics := []
      parameters := [.typed "tuple" ownTuple]
      output := some ownType
      body := fromTupleBody subject.parts }]

end Derive

/-- The implementation of an operation. -/
def Operation.implementation : Operation → Subject → Implementation
  | .equality => Derive.equality
  | .hash => Derive.hash
  | .display => Derive.display
  | .product => Derive.product

end RecordDerive.Code
