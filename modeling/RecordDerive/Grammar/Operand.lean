import RecordDerive.Grammar.Expression

/-!
# The grammar of operands and operations

Where a statement or an alternative begins with a block, it may end with that
block: what follows belongs to the same expression only if it is a member or the
mark for a failure.
-/

namespace RecordDerive.Grammar.Parse

/-! ## What follows an operand -/

/-- Members by the positions in a number with a point, and whether a point at
its end calls for one more. -/
def membersAt (value : Phrase) (text : String) : Parse (Phrase × Bool) := do
  let endsInPoint := text.endsWith "."
  let digits := if endsInPoint then (text.dropEnd 1).toString else text
  let parts := (digits.splitOn ".").map Literal.position
  let mut found := value
  let mut isFirst := true
  for part in parts do
    match part with
    | .ok position =>
      unless isFirst do spell [.mark '.' false]
      spell [.literal (toString position)]
      found := .field found (toString position)
      isFirst := false
    | .error cause => throw (.badPosition cause)
  return (found, endsInPoint)

/-- A member, or a call of a method, after the point. -/
def memberAfter (nested : Nested) (value : Phrase) : Parse Phrase := do
  if ← acceptWord "await" then return .field value "await"
  let member ← memberName
  let isNamed := isNamedMember member
  let typeArguments ←
    if isNamed && (← look (atMarks "::")) then
      requireMarks "::"
      some <$> arguments nested
    else pure none
  if isNamed && (typeArguments.isSome || (← look (atGroup .round))) then
    return .methodCall value member (typeArguments.getD [])
      (← inGroup .round (expressions nested))
  else return .field value member

/-- The number with a point at the front, and what follows it. -/
def fractionAt : List Token → Option (String × List Token)
  | .literal text :: rest => if Literal.isFractional text then some (text, rest) else none
  | .mark '-' _ :: .literal text :: rest =>
    if Literal.isFractional text then some ("-" ++ text, rest) else none
  | _ => none

/-- An expression with the calls, positions and members that follow it. -/
def trailers (nested : Nested) : Nat → Phrase → Parse Phrase
  | 0, _ => throw .outOfSteps
  | steps + 1, value => do
    let tokens ← ahead
    if atGroup .round tokens then
      trailers nested steps (.call value (← inGroup .round (expressions nested)))
    else if atPoint tokens && !value.isRange then
      requireMarks "."
      match fractionAt (← ahead) with
      | some (text, rest) =>
        advance rest []
        let (found, endsInPoint) ← membersAt value text
        if endsInPoint then
          spell [.mark '.' false]
          trailers nested steps (← memberAfter nested found)
        else trailers nested steps found
      | none => trailers nested steps (← memberAfter nested value)
    else if atGroup .square tokens then
      trailers nested steps (.index value (← inGroup .square nested.anyExpression))
    else if atMarks "?" tokens && !value.isRange then
      requireMarks "?"
      trailers nested steps (.propagated value)
    else return value

/-- What must not follow a conversion, if it stands at the front. -/
def castSuffix? (tokens : List Token) : Option CastSuffix :=
  let next := tokens.drop 1
  if atPoint tokens then
    if atWord "await" next then some .waiting
    else if atName next && (atGroup .round (next.drop 1) || atMarks "::" (next.drop 1)) then
      some .methodCall
    else some .fieldAccess
  else if atMarks "?" tokens then some .propagation
  else if atGroup .square tokens then some .indexing
  else if atGroup .round tokens then some .call
  else none

/-- The type after the keyword of a conversion. -/
def castType (nested : Nested) : Parse Phrase := do
  requireWord "as"
  let type ← nested.type false
  match castSuffix? (← ahead) with
  | some suffix => forbid (.castSuffix suffix)
  | none => return type

/-! ## Operations -/

/-- The signs that may stand before an operand. -/
def signs : List String := ["*", "!", "-"]

/-- How a reference is taken, after its sign. -/
def referenceLead : Parse String := do
  let tokens ← ahead
  if atWord "raw" tokens && atOneOf ["mut", "const"] (tokens.drop 1) then
    requireWord "raw"
    if ← acceptWord "mut" then return "&raw mut "
    else
      requireWord "const"
      return "&raw const "
  else return "&" ++ (← optionalWord "mut")

/-- An operand with the signs and decorations before it, given how what follows
these is read. -/
def signed (nested : Nested) (atom : Parse Phrase) : Nat → Parse Phrase
  | 0 => throw .outOfSteps
  | steps + 1 => do
    let start ← get
    let decorations ← outerDecorations nested
    if ← acceptMarks "&" then
      let lead ← referenceLead
      return (Phrase.unary lead (← signed nested atom steps)).decorate decorations
    else
      match signs.find? (atMarks · (← ahead)) with
      | some sign =>
        requireMarks sign
        return (Phrase.unary sign (← signed nested atom steps)).decorate decorations
      | none =>
        match ← trailers nested nested.steps (← atom) with
        | .verbatim .. => return .verbatim .expression (← sourceSince start)
        | value =>
          if value.isRange && !decorations.isEmpty then forbid .decoratedRange
          return value.decorate decorations

mutual

/-- An expression that begins with the given operand, with operators that bind
at least as tightly as a precedence. -/
def operations (nested : Nested) (records : Bool) (operand : Parse Phrase) :
    Nat → Precedence → Phrase → Parse Phrase
  | 0, _, _ => throw .outOfSteps
  | steps + 1, base, left => do
    let tokens ← ahead
    if left.isRange then return left
    else
      match operatorAt tokens with
      | some (operator, precedence) =>
        if precedence.rank < base.rank then return left
        else if precedence = .compare && left.isCompared then forbid .chainedComparison
        else
          requireMarks operator
          let right ← rightOperand nested records operand steps precedence (← operand)
          operations nested records operand steps base (.binary operator left right)
      | none =>
        if base.rank ≤ Precedence.assign.rank && atAssignment tokens then
          requireMarks "="
          let right ← rightOperand nested records operand steps .assign (← operand)
          operations nested records operand steps base (.assignment left right)
        else if base.rank ≤ Precedence.range.rank && atMarks ".." tokens then
          operations nested records operand steps base (← rangeAfter nested records (some left))
        else if atWord "as" tokens then
          operations nested records operand steps base (.cast left (← castType nested))
        else return left

/-- The right operand of an operator, which takes in operators that bind more
tightly. -/
def rightOperand (nested : Nested) (records : Bool) (operand : Parse Phrase) :
    Nat → Precedence → Phrase → Parse Phrase
  | 0, _, _ => throw .outOfSteps
  | steps + 1, base, right => do
    let before ← ahead
    let next := precedenceAt before
    if base.rank < next.rank || (next = base && base = .assign) then
      let right ← operations nested records operand steps next right
      if (← ahead).length = before.length then return right
      else rightOperand nested records operand steps base right
    else return right

end

/-! ## Choices -/

/-- An alternative of a choice.  A comma follows it, unless its body ends in a
block or nothing follows. -/
def arm (nested : Nested) : Parse Phrase := do
  let decorations ← outerDecorations nested
  let pattern ← anyPattern nested
  let guard ← if ← acceptWord "if" then some <$> nested.anyExpression else pure none
  requireMarks "=>"
  let body ← nested.alternative
  if body.needsComma && !(← atEnd) then requireMarks ","
  else let _ ← acceptMarks ","
  return (Phrase.arm pattern guard body.asAlternative).decorate decorations

/-- A choice between alternatives by patterns. -/
def choice (nested : Nested) : Parse Phrase := do
  requireWord "match"
  let value ← nested.condition
  inGroup .curly do
    let decorations ← innerDecorations nested
    return .choice value decorations (← many (arm nested) nested.steps)

/-! ## Operands -/

/-- An operand that nothing precedes or follows. -/
def atom (nested : Nested) (records : Bool) : Parse Phrase := do
  let start ← get
  let tokens := start.ahead
  if atLiteral tokens then return .literal (← literal)
  else if atSuspension tokens then suspension nested
  else if atAttempt tokens then attemptBlock nested
  else if atClosure tokens then closure nested records
  else if atBuiltin tokens then builtin .expression
  else if atPathExpression tokens then pathExpression nested records
  else if atGroup .round tokens then parenthesizedExpression nested
  else if atWord "break" tokens then breakExpression nested records
  else if atWord "continue" tokens then
    requireWord "continue"
    return .jump ("continue" ++ (← jumpLabel)) none
  else if atWord "return" tokens then
    requireWord "return"
    return .jump "return" (← jumpValue nested records)
  else if atWord "become" tokens then
    requireWord "become"
    let _ ← nested.anyExpression
    return .verbatim .expression (← sourceSince start)
  else if atGroup .square tokens then bracketedExpression nested
  else if atWord "let" tokens then matching nested records
  else if atWord "if" tokens then conditional nested nested.steps
  else if atOneOf ["while", "for", "loop"] tokens then
    return (← loop? nested none).getD default
  else if atWord "match" tokens then choice nested
  else if atWord "yield" tokens then
    requireWord "yield"
    return .jump "yield" (← jumpValue nested true)
  else if atWord "unsafe" tokens then uncheckedBlock nested
  else if atWord "const" tokens then constantBlock nested
  else if atGroup .curly tokens then blockExpression nested .plain none
  else if atMarks ".." tokens then rangeAfter nested records none
  else if atWord "_" tokens then
    requireWord "_"
    return .fixed "_"
  else if atLifetime tokens then labelled nested
  else refuse ["an expression"]

/-- An operand with what stands before and after it. -/
def operand (nested : Nested) (records : Bool) : Parse Phrase :=
  signed nested (atom nested records) nested.steps

/-! ## Expressions -/

/-- An expression whose operators bind at least as tightly as a precedence. -/
def expression (nested : Nested) (records : Bool) (base : Precedence) : Parse Phrase := do
  operations nested records (operand nested records) nested.steps base (← operand nested records)

/-- The right operand of an operator of a precedence. -/
def operandAfter (nested : Nested) (records : Bool) (base : Precedence) : Parse Phrase := do
  rightOperand nested records (operand nested records) nested.steps base (← operand nested records)

/-- Whether a loop stands at the front, and no closure behind parameters. -/
def atLoop (tokens : List Token) : Bool :=
  atOneOf ["while", "for", "loop"] tokens && !atClosure tokens

/-- An expression of which a block at its front may be all. -/
def alternative (nested : Nested) : Parse Phrase := do
  let decorations ← outerDecorations nested
  let tokens ← ahead
  let first ←
    if atWord "if" tokens then conditional nested nested.steps
    else if atLoop tokens then do pure ((← loop? nested none).getD default)
    else if atWord "match" tokens then choice nested
    else if atAttempt tokens then attemptBlock nested
    else if atWord "unsafe" tokens then uncheckedBlock nested
    else if atWord "const" tokens && atGroup .curly (tokens.drop 1) then constantBlock nested
    else if atGroup .curly tokens then blockExpression nested .plain none
    else if atLifetime tokens then labelled nested
    else operand nested true
  let goesOn (value : Phrase) : Parse Phrase :=
    operations nested true (operand nested true) nested.steps .loose (value.decorate decorations)
  if !first.endsEarly then goesOn first
  else if ← look fun tokens => atPoint tokens || atMarks "?" tokens then
    goesOn (← trailers nested nested.steps first)
  else return first.decorate decorations

end RecordDerive.Grammar.Parse
