import RecordDerive.Grammar.Operator
import RecordDerive.Grammar.Phrase

/-!
# Readings of nested phrases

The grammar of types, expressions, patterns, statements and items is recursive
through all of them.  Each reading is therefore given those of the phrases inside
it, and they are tied together last.  Loops are bounded by a number of rounds
that is given in the same way.
-/

namespace RecordDerive.Grammar.Parse

/-- What bounds may be besides traits and lifetimes. -/
structure BoundRule where
  /-- A list of captured parameters. -/
  capture : Bool
  /-- A trait in constant contexts. -/
  constant : Bool

/-- The readings of phrases inside a phrase. -/
structure Nested where
  /-- A bound on the rounds of any loop. -/
  steps : Nat
  /-- A type; the argument tells whether a sum of bounds may stand for it. -/
  type : Bool → Parse Phrase
  /-- A bound. -/
  bound : BoundRule → Parse Phrase
  /-- An expression whose operators bind at least as tightly as a precedence; the
  first argument tells whether a path may be followed by the fields of a
  record. -/
  expression : Bool → Precedence → Parse Phrase
  /-- The right operand of an operator of a precedence. -/
  rightOperand : Bool → Precedence → Parse Phrase
  /-- An expression of which a block at its front may be all. -/
  alternative : Parse Phrase
  /-- A pattern that is no choice between several. -/
  pattern : Parse Phrase
  /-- The statements up to the end of a block. -/
  statements : Parse (List Phrase)
  /-- An item. -/
  item : Parse Phrase
  /-- What a declaration of use names. -/
  useTree : Parse Phrase

/-- An expression without restrictions. -/
def Nested.anyExpression (nested : Nested) : Parse Phrase :=
  nested.expression true .loose

/-- An expression that a block follows. -/
def Nested.condition (nested : Nested) : Parse Phrase :=
  nested.expression false .loose

end RecordDerive.Grammar.Parse
