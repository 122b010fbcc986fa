import RecordDerive.Grammar.Literal
import RecordDerive.Grammar.Operator
import RecordDerive.Grammar.Phrase

/-!
# Forms of expressions

What an expression needs around it depends on its form alone: whether a comma or
semicolon must follow it, where it may break, and which brackets hold it.
-/

namespace RecordDerive.Grammar

/-- Whether a list of tokens ends in curly brackets. -/
def endsInBraces (tokens : List Token) : Bool :=
  match tokens.getLast? with
  | some (.group .curly _) => true
  | _ => false

namespace Phrase

/-! ## As statements and alternatives -/

/-- Whether an expression that stands as an alternative needs a comma after
it. -/
def needsComma : Phrase → Bool
  | .conditional .. | .choice .. | .whileLoop .. | .endlessLoop .. | .forLoop .. => false
  | .block (.suspended _) .. => true
  | .block .. => false
  | .decorated _ inner => inner.needsComma
  | _ => true

/-- Whether an expression that stands as a statement needs a semicolon after
it. -/
def needsSemicolon : Phrase → Bool
  | .expansion _ bracket _ => bracket != .curly
  | .decorated _ inner => inner.needsSemicolon
  | other => other.needsComma

/-- Whether an expression is all of a statement that begins with it.  An operand
that is a statement of its own ends that statement, unless a member or the mark
for a failure follows. -/
def standsAsStatement : Phrase → Bool
  | .assignment left _ | .binary _ left _ | .range (some left) _ _ | .cast left _
  | .call left _ | .index left _ =>
    left.needsSemicolon && left.standsAsStatement
  | .field value _ | .methodCall value _ _ _ | .propagated value => value.standsAsStatement
  | .decorated _ inner => inner.standsAsStatement
  | _ => true

/-- Whether a semicolon is put after an expression though it ends a block. -/
def isEffect : Phrase → Bool
  | .assignment .. | .jump .. => true
  | .binary operator _ _ => updates.contains operator
  | .decorated _ inner => inner.isEffect
  | _ => false

/-- Whether the semicolon after an expression is left out. -/
def dropsSemicolon : Phrase → Bool
  | .forLoop .. | .whileLoop .. => true
  | .conditional _ _ none => true
  | .conditional _ _ (some alternative) => alternative.dropsSemicolon
  | .decorated _ inner => inner.dropsSemicolon
  | _ => false

/-- Whether an expression compares two others. -/
def isCompared : Phrase → Bool
  | .binary operator _ _ => isComparison operator
  | _ => false

/-- Whether an expression is divided by a range. -/
def isRange : Phrase → Bool
  | .range .. => true
  | _ => false

/-- Whether an expression ends where a statement may end without a
semicolon. -/
def endsEarly : Phrase → Bool
  | .conditional .. | .choice .. | .whileLoop .. | .endlessLoop .. | .forLoop .. => true
  | .block (.suspended _) .. => false
  | .block .. => true
  | .decorated _ inner => inner.endsEarly
  | _ => false

/-- The body of an alternative without the blocks that hold nothing else.  The
empty tuple is as good as an empty block. -/
def asAlternative : Phrase → Phrase
  | .block .plain none [] [.expressionStatement inner false] => inner.asAlternative
  | .tuple [] => .block .plain none [] []
  | .decorated _ (.block .plain label decorations statements) =>
    .block .plain label decorations statements
  | other => other

/-! ## Closing brackets -/

mutual

/-- Whether a type ends in curly brackets. -/
def typeEndsInBraces : Phrase → Bool
  | .function _ _ _ (some output) | .appliedStep _ _ (some output) => output.typeEndsInBraces
  | .quantified _ inner | .relaxed inner => inner.typeEndsInBraces
  | .expansion _ bracket _ => bracket == .curly
  | .path _ steps | .projection _ _ steps => lastEndsInBraces steps
  | .pointer _ target | .reference _ _ target => target.typeEndsInBraces
  | .object _ bounds | .existential bounds => lastEndsInBraces bounds
  | .verbatim _ tokens => Grammar.endsInBraces tokens
  | _ => false

/-- Whether the last of some steps or bounds ends in curly brackets. -/
def lastEndsInBraces : List Phrase → Bool
  | [] => false
  | [.parenthesized bound] => bound.typeEndsInBraces
  | [only] => only.typeEndsInBraces
  | _ :: rest => lastEndsInBraces rest

end

/-- Whether an expression ends in curly brackets, so that no block can follow it
as its own. -/
def endsInBraces : Phrase → Bool
  | .block .. | .conditional .. | .choice .. | .whileLoop .. | .endlessLoop .. | .forLoop ..
  | .record .. => true
  | .assignment _ right | .binary _ _ right => right.endsInBraces
  | .jump _ (some value) => value.endsInBraces
  | .cast _ type => type.typeEndsInBraces
  | .closure _ _ _ body => body.endsInBraces
  | .quantified _ inner => inner.endsInBraces
  | .matching _ value => value.endsInBraces
  | .expansion _ bracket _ => bracket == .curly
  | .range _ _ (some finish) => finish.endsInBraces
  | .unary _ operand => operand.endsInBraces
  | .verbatim _ tokens => Grammar.endsInBraces tokens
  | .decorated _ inner => inner.endsInBraces
  | _ => false

/-! ## Layout -/

/-- Whether an expression lies between brackets of its own, so that it may stand
alone between those of a call. -/
def isEnclosed : Phrase → Bool
  | .list _ | .block .. | .closure .. | .record .. | .tuple _ => true
  | .quantified _ inner => inner.isEnclosed
  | _ => false

/-- Whether an expression continues the chain of the value before it. -/
def isLink : Phrase → Bool
  | .call .. | .index .. | .field .. | .methodCall .. | .propagated _ => true
  | _ => false

/-- Whether an expression is a name that is no longer than an indentation. -/
def isShortName : Phrase → Bool
  | .path false [.step name _ []] => name.utf8ByteSize ≤ 4
  | _ => false

/-- Whether a condition may break, so that what follows it goes to a new
line. -/
def mayBreak : Phrase → Bool
  | .assignment .. | .binary .. | .cast .. | .field .. | .index .. | .methodCall .. => true
  | .jump _ (some inner) | .call inner _ | .matching _ inner | .parenthesized inner
  | .range _ _ (some inner) | .unary _ inner | .propagated inner | .decorated _ inner =>
    inner.mayBreak
  | _ => false

/-- Whether an expression is a whole number, character, byte or truth value. -/
def isPlainLiteral : Phrase → Bool
  | .literal text =>
    match text.toList with
    | 'b' :: '\'' :: _ | '\'' :: _ => true
    | '-' :: rest => Literal.isWhole rest
    | other => text == "true" || text == "false" || Literal.isWhole other
  | .decorated _ inner => inner.isPlainLiteral
  | _ => false

/-- Whether a pattern is a literal or matches everything without a name. -/
def isPlainPattern : Phrase → Bool
  | .literal _ => true
  | .fixed text => text == "_"
  | _ => false

end Phrase

end RecordDerive.Grammar
