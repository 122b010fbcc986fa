import RecordDerive.Grammar.Cursor

/-!
# Operators

The operators between two operands, and how tightly each binds them.
-/

namespace RecordDerive.Grammar

/-- How tightly an operator binds its operands. -/
inductive Precedence
  | loose
  | assign
  | range
  | or
  | and
  | compare
  | bitOr
  | bitXor
  | bitAnd
  | shift
  | sum
  | product
  | cast
  deriving Repr, DecidableEq

/-- The rank of a precedence. -/
def Precedence.rank : Precedence → Nat
  | .loose => 0
  | .assign => 1
  | .range => 2
  | .or => 3
  | .and => 4
  | .compare => 5
  | .bitOr => 6
  | .bitXor => 7
  | .bitAnd => 8
  | .shift => 9
  | .sum => 10
  | .product => 11
  | .cast => 12

/-- The operators that change their left operand. -/
def updates : List String := ["+=", "-=", "*=", "/=", "%=", "^=", "&=", "|=", "<<=", ">>="]

/-- The operators between two operands; an operator stands after those it
begins. -/
def operators : List (String × Precedence) :=
  updates.map (·, .assign) ++
    [("&&", .and), ("||", .or), ("<<", .shift), (">>", .shift), ("==", .compare), ("<=", .compare),
      ("!=", .compare), (">=", .compare), ("+", .sum), ("-", .sum), ("*", .product),
      ("/", .product), ("%", .product), ("^", .bitXor), ("&", .bitAnd), ("|", .bitOr),
      ("<", .compare), (">", .compare)]

/-- The operator at the front. -/
def operatorAt (tokens : List Token) : Option (String × Precedence) :=
  operators.find? fun operator => atMarks operator.1 tokens

/-- Whether an equality sign stands at the front that begins no other operator
of a list of alternatives. -/
def atAssignment (tokens : List Token) : Bool :=
  atMarks "=" tokens && !atMarks "=>" tokens

/-- The precedence of what stands at the front. -/
def precedenceAt (tokens : List Token) : Precedence :=
  match operatorAt tokens with
  | some operator => operator.2
  | none =>
    if atAssignment tokens then .assign
    else if atMarks ".." tokens then .range
    else if atWord "as" tokens then .cast
    else .loose

/-- Whether an operator compares its operands. -/
def isComparison (operator : String) : Bool :=
  operators.any fun known => known.1 == operator && known.2 == .compare

/-- Whether a point stands at the front that begins no range. -/
def atPoint (tokens : List Token) : Bool :=
  atMarks "." tokens && !atMarks ".." tokens

/-- Whether a mark stands at the front that expands a path. -/
def atExpansion (tokens : List Token) : Bool :=
  atMarks "!" tokens && !atMarks "!=" tokens

/-- Whether a colon stands at the front that is no part of a path. -/
def atColon (tokens : List Token) : Bool :=
  atMarks ":" tokens && !atMarks "::" tokens

end RecordDerive.Grammar
