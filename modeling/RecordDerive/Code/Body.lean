import RecordDerive.Code.Member
import RecordDerive.Grammar.Phrase

/-!
# Generated code

The implementations that are generated, as data.  Their methods use few forms:
parameters and members of them are compared, handed on, collected in tuples and
records, or shown behind a template.
-/

namespace RecordDerive.Code

open Grammar

/-- A parameter of a method, or a member of one. -/
inductive Place
  | whole (parameter : String)
  | member (parameter : String) (member : Member)
  deriving Repr, DecidableEq

/-- What is handed to a function: a value, or a reference to it. -/
inductive Argument
  | value (place : Place)
  | borrowed (place : Place)
  deriving Repr, DecidableEq

/-- How a value is shown: its name, and in parentheses the labels of its fields,
each with a gap for the field's value. -/
structure Template where
  name : String
  labels : List String
  deriving Repr, DecidableEq

/-- An expression. -/
inductive Expr
  | truth
  | number (value : Nat)
  | text (content : String)
  /-- A reference to an array of texts. -/
  | texts (contents : List String)
  | equal (left right : Place)
  | both (left right : Expr)
  | call (function : Phrase) (arguments : List Argument)
  /-- Write values into the gaps of a template. -/
  | write (sink : String) (template : Template) (values : List Place)
  | tuple (elements : List Place)
  /-- The value of the own type with the given members. -/
  | record (fields : List (Member × Place))

/-- A step of a method. -/
inductive Statement
  /-- Use a parameter for nothing. -/
  | discard (parameter : String)
  | run (action : Expr)
  /-- The value of the method. -/
  | result (value : Expr)

/-- What a method takes. -/
inductive Parameter
  /-- The value it belongs to, itself or by reference. -/
  | receiver (borrowed : Bool)
  | typed (name : String) (type : Phrase)

/-- A type that a method is generic in. -/
structure Generic where
  name : String
  bound : Phrase

/-- A method with its body. -/
structure Method where
  name : String
  generics : List Generic
  parameters : List Parameter
  output : Option Phrase
  body : List Statement

/-- A part of an implementation. -/
inductive Item
  | type (name : String) (meaning : Phrase)
  | constant (name : String) (type : Phrase) (value : Expr)
  | method (method : Method)

/-- An implementation of an interface for a type. -/
structure Implementation where
  interface : Phrase
  subject : Phrase
  items : List Item

/-- The text of a template with its gaps; names in it hold no curly brackets. -/
def Template.text (template : Template) : String :=
  template.name ++ "(" ++
    String.intercalate ", " (template.labels.map fun label => label ++ "=\x7b:?\x7d") ++ ")"

end RecordDerive.Code
