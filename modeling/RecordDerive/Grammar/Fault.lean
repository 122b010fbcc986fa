import RecordDerive.Grammar.Token

/-!
# Why source text is refused

Most refusals say what was expected at a token, and say so differently where the
text, or the group being read, ends instead.  A missing mark is reported the
same way in both places.
-/

namespace RecordDerive.Grammar

/-- What must not follow a conversion. -/
inductive CastSuffix
  | waiting
  | methodCall
  | fieldAccess
  | propagation
  | indexing
  | call
  deriving Repr, DecidableEq

/-- How source text calls what must not follow a conversion. -/
def CastSuffix.text : CastSuffix → String
  | .waiting => "`.await`"
  | .methodCall => "a method call"
  | .fieldAccess => "a field access"
  | .propagation => "`?`"
  | .indexing => "indexing"
  | .call => "a function call"

/-- Forms that are recognised and must not stand where they do. -/
inductive Misplaced
  /-- The bounds of an object type are lifetimes only. -/
  | objectWithoutTrait
  /-- The bounds of some type are lifetimes only. -/
  | existentialWithoutTrait
  /-- Lifetimes are introduced for a bound that may be absent. -/
  | relaxedBinder
  | capture
  | constantBound
  | conditionalConstantBound
  /-- Two comparisons follow one another. -/
  | chainedComparison
  | castSuffix (suffix : CastSuffix)
  /-- A labelled loop stands for the value of a jump. -/
  | labelledJump
  | decoratedRange
  | openRangeInSlice
  | secondReceiver
  | lateReceiver
  | negativeInherent
  | decorationInDecoration
  /-- A statement goes on where its end was expected. -/
  | runningStatement
  deriving Repr, DecidableEq

/-- The wording for a misplaced form. -/
def Misplaced.message : Misplaced → String
  | .objectWithoutTrait => "at least one trait is required for an object type"
  | .existentialWithoutTrait => "at least one trait must be specified"
  | .relaxedBinder => "`for<...>` binder not allowed with `?` trait polarity modifier"
  | .capture => "`use<...>` precise capturing syntax is not allowed here"
  | .constantBound => "`const` is not allowed here"
  | .conditionalConstantBound => "`[const]` is not allowed here"
  | .chainedComparison => "comparison operators cannot be chained"
  | .castSuffix suffix => "casts cannot be followed by " ++ suffix.text
  | .labelledJump => "parentheses required"
  | .decoratedRange => "attributes are not allowed on range expressions starting with `..`"
  | .openRangeInSlice => "range pattern is not allowed unparenthesized inside slice pattern"
  | .secondReceiver => "unexpected second method receiver"
  | .lateReceiver => "unexpected method receiver"
  | .negativeInherent => "inherent impls cannot be negative"
  | .decorationInDecoration => "unexpected attribute inside of attribute"
  | .runningStatement => "unexpected token, expected `;`"

/-- Numbers that cannot be the position of a field. -/
inductive BadPosition
  | notWhole
  | suffixed
  | negative
  | tooLarge
  deriving Repr, DecidableEq

/-- The wording for a number that is no position. -/
def BadPosition.message : BadPosition → String
  | .notWhole => "expected integer literal"
  | .suffixed => "expected unsuffixed integer"
  | .negative => "invalid digit found in string"
  | .tooLarge => "number too large to fit in target type"

/-- The causes for which source text is refused. -/
inductive Fault
  /-- The text cannot be divided into tokens. -/
  | notTokens
  /-- One of some things was expected. -/
  | expected (atEnd : Bool) (what : List String)
  /-- A mark was expected. -/
  | missingMark (mark : String)
  /-- A name was expected and a keyword found. -/
  | keywordAsName (keyword : String)
  /-- Tokens are left over, in a group or at the end of the text. -/
  | leftOver (inside : Option Bracket)
  | misplaced (form : Misplaced)
  | badPosition (cause : BadPosition)
  /-- The phrase nests deeper than its tokens allow; no text is refused so. -/
  | outOfSteps
  deriving Repr, DecidableEq

/-- The wording of what was expected. -/
def expectation : List String → String
  | [] => "unexpected token"
  | [only] => "expected " ++ only
  | [first, second] => "expected " ++ first ++ " or " ++ second
  | several => "expected one of: " ++ String.intercalate ", " several

/-- The wording of a fault. -/
def Fault.message : Fault → String
  | .notTokens => "cannot parse string into token stream"
  | .expected true [] => "unexpected end of input"
  | .expected true what => "unexpected end of input, " ++ expectation what
  | .expected false what => expectation what
  | .missingMark mark => "expected `" ++ mark ++ "`"
  | .keywordAsName keyword => "expected identifier, found keyword `" ++ keyword ++ "`"
  | .leftOver none => "unexpected token"
  | .leftOver (some bracket) => "unexpected token, expected `" ++ bracket.closing ++ "`"
  | .misplaced form => form.message
  | .badPosition cause => cause.message
  | .outOfSteps => "nested too deeply"

end RecordDerive.Grammar
