import RecordDerive.Grammar.Form
import RecordDerive.Grammar.Pattern

/-!
# The grammar of expressions

An operand is told by its first tokens; calls, members and positions follow it,
and operators stand between operands by their precedence.  Where a block must
follow, a path is not followed by the fields of a record.
-/

namespace RecordDerive.Grammar.Parse

/-! ## Lists of expressions -/

/-- The arguments of a call. -/
def expressions (nested : Nested) : Parse (List Phrase) :=
  separated "," nested.anyExpression nested.steps

/-- The elements of a list or tuple after the first, each behind a comma. -/
def furtherExpressions (nested : Nested) : Parse (List Phrase) := do
  if ← atEnd then return []
  requireMarks ","
  expressions nested

/-- An expression in parentheses, or a tuple. -/
def parenthesizedExpression (nested : Nested) : Parse Phrase :=
  inGroup .round do
    if ← atEnd then return .tuple []
    let first ← nested.anyExpression
    if ← atEnd then return .parenthesized first
    return .tuple (first :: (← furtherExpressions nested))

/-- A list, or an element with the number of its repetitions. -/
def bracketedExpression (nested : Nested) : Parse Phrase :=
  inGroup .square do
    if ← atEnd then return .list []
    let first ← nested.anyExpression
    let tokens ← ahead
    if tokens.isEmpty || atMarks "," tokens then
      return .list (first :: (← furtherExpressions nested))
    else if ← acceptMarks ";" then return .array first (← nested.anyExpression)
    else refuse ["`,`", "`;`"]

/-! ## Records -/

/-- The value of a field of a record. -/
def fieldValue (nested : Nested) : Parse Phrase := do
  let decorations ← outerDecorations nested
  let member ← memberName
  let field ←
    if (← look (atMarks ":")) || !isNamedMember member then do
      requireMarks ":"
      pure (Phrase.fieldValue member (← nested.anyExpression))
    else pure (Phrase.fixed member)
  return field.decorate decorations

/-- The fields of a record, and the value that all others are taken from. -/
def fieldValues (nested : Nested) : Nat → Parse (List Phrase × Option Phrase)
  | 0 => throw .outOfSteps
  | steps + 1 => do
    if ← atEnd then return ([], none)
    if ← acceptMarks ".." then
      if ← atEnd then return ([], none) else return ([], some (← nested.anyExpression))
    let first ← fieldValue nested
    if ← atEnd then return ([first], none)
    requireMarks ","
    let (more, rest) ← fieldValues nested steps
    return (first :: more, rest)

/-- An expression that begins with a path. -/
def pathExpression (nested : Nested) (records : Bool) : Parse Phrase := do
  let (found, isPlain) ← expandablePath nested true
  match ← expanded? found isPlain with
  | some expansion => return expansion
  | none =>
    if records && (← look (atGroup .curly)) then
      let (fields, rest) ← inGroup .curly (fieldValues nested nested.steps)
      return .record found fields rest
    else return found

/-! ## Jumps -/

/-- Whether an expression may stand at the front. -/
def atExpression (tokens : List Token) : Bool :=
  let atSign (sign : String) (others : List String) :=
    atMarks sign tokens && !others.any (atMarks · tokens)
  atAnyWord tokens || atAnyGroup tokens || atLiteral tokens || atSign "!" ["!="] ||
    atSign "-" ["-=", "->"] || atSign "*" ["*="] || atSign "|" ["|="] || atSign "&" ["&="] ||
    atMarks ".." tokens || atSign "<" ["<=", "<<="] || atMarks "::" tokens || atLifetime tokens ||
    atMarks "#" tokens

/-- The value of a jump, if there is one. -/
def jumpValue (nested : Nested) (records : Bool) : Parse (Option Phrase) := do
  if ← look atExpression then some <$> nested.expression records .loose else return none

/-- The label of a jump with a blank before it, if there is one. -/
def jumpLabel : Parse String := do
  match ← acceptLifetime with
  | some name => return " " ++ name
  | none => return ""

/-- A jump out of a loop or block.  A labelled loop is no value of it unless in
parentheses. -/
def breakExpression (nested : Nested) (records : Bool) : Parse Phrase := do
  requireWord "break"
  if ← look fun tokens => atLifetime tokens && atMarks ":" (afterOne tokens) then
    let _ ← nested.anyExpression
    forbid .labelledJump
  let lead := "break" ++ (← jumpLabel)
  if records || !(← look (atGroup .curly)) then
    return .jump lead (← jumpValue nested records)
  else return .jump lead none

/-! ## Closures -/

/-- An input of a closure. -/
def closureInput (nested : Nested) : Parse Phrase := do
  let decorations ← outerDecorations nested
  let pattern ← nested.pattern
  let input ←
    if ← acceptMarks ":" then pure (Phrase.typed pattern (← nested.type true)) else pure pattern
  return input.decorate decorations

/-- The inputs of a closure. -/
def closureInputs (nested : Nested) : Nat → Parse (List Phrase)
  | 0 => throw .outOfSteps
  | steps + 1 => do
    if ← look (atMarks "|") then return []
    let first ← closureInput nested
    if ← look (atMarks "|") then return [first]
    requireMarks ","
    return first :: (← closureInputs nested steps)

/-- Whether a closure stands at the front. -/
def atClosure (tokens : List Token) : Bool :=
  let next := tokens.drop 1
  atMarks "|" tokens || atWord "move" tokens ||
    (atWord "for" tokens && atMarks "<" next &&
      (atLifetime (next.drop 1) || atMarks ">" (next.drop 1))) ||
    (atWord "const" tokens && !atGroup .curly next) || atWord "static" tokens ||
    (atWord "async" tokens && (atMarks "|" next || atWord "move" next))

/-- A closure.  One with the type of its output has a block for its body. -/
def closure (nested : Nested) (records : Bool) : Parse Phrase := do
  let parameters ← binder nested
  let constness ← optionalWord "const"
  let movability ← optionalWord "static"
  let suspension ← optionalWord "async"
  let capture ← optionalWord "move"
  requireMarks "|"
  let inputs ← closureInputs nested nested.steps
  requireMarks "|"
  let lead := constness ++ movability ++ suspension ++ capture
  if ← acceptMarks "->" then
    let output ← nested.type true
    let body := Phrase.block .plain none [] (← plainBlock nested)
    return quantify parameters (.closure lead inputs (some output) body)
  else
    return quantify parameters (.closure lead inputs none (← nested.expression records .loose))

/-! ## Conditions, choices and loops -/

/-- A block that is chosen by a condition, with what is chosen otherwise. -/
def conditional (nested : Nested) : Nat → Parse Phrase
  | 0 => throw .outOfSteps
  | steps + 1 => do
    requireWord "if"
    let condition ← nested.condition
    let consequent ← plainBlock nested
    if ← acceptWord "else" then
      let tokens ← ahead
      if atWord "if" tokens then
        return .conditional condition consequent (some (← conditional nested steps))
      else if atGroup .curly tokens then
        return .conditional condition consequent
          (some (.block .plain none [] (← plainBlock nested)))
      else refuse ["`if`", "curly braces"]
    else return .conditional condition consequent none

/-- A loop, if one stands at the front. -/
def loop? (nested : Nested) (label : Option String) : Parse (Option Phrase) := do
  if ← acceptWord "while" then
    let condition ← nested.condition
    let (decorations, statements) ← decoratedBlock nested
    return some (.whileLoop label condition decorations statements)
  else if ← acceptWord "for" then
    let pattern ← anyPattern nested
    requireWord "in"
    let values ← nested.condition
    let (decorations, statements) ← decoratedBlock nested
    return some (.forLoop label pattern values decorations statements)
  else if ← acceptWord "loop" then
    let (decorations, statements) ← decoratedBlock nested
    return some (.endlessLoop label decorations statements)
  else return none

/-- A loop or block behind its label. -/
def labelled (nested : Nested) : Parse Phrase := do
  let label ← requireLifetime
  requireMarks ":"
  match ← loop? nested (some label) with
  | some loop => return loop
  | none =>
    if ← look (atGroup .curly) then blockExpression nested .plain (some label)
    else refuse ["loop or block expression"]

/-- Whether a block that may fail stands at the front. -/
def atAttempt (tokens : List Token) : Bool :=
  atWord "try" tokens && atGroup .curly (tokens.drop 1)

/-- Whether a block that may be waited for stands at the front. -/
def atSuspension (tokens : List Token) : Bool :=
  atWord "async" tokens &&
    (atGroup .curly (tokens.drop 1) ||
      (atWord "move" (tokens.drop 1) && atGroup .curly (tokens.drop 2)))

/-- A block that may be waited for. -/
def suspension (nested : Nested) : Parse Phrase := do
  requireWord "async"
  let moving ← acceptWord "move"
  return .block (.suspended moving) none [] (← plainBlock nested)

/-- A block that may fail. -/
def attemptBlock (nested : Nested) : Parse Phrase := do
  requireWord "try"
  return .block .attempted none [] (← plainBlock nested)

/-- A block whose safety is not checked. -/
def uncheckedBlock (nested : Nested) : Parse Phrase := do
  requireWord "unsafe"
  blockExpression nested .unchecked none

/-! ## Operands -/

/-- The points of a range in an expression. -/
def rangeLimits : Parse String := do
  let tokens ← ahead
  if atMarks "..=" tokens then requireMarks "..=" *> pure "..="
  else if atMarks ".." tokens && !atMarks "..." tokens then requireMarks ".." *> pure ".."
  else refuse ["`..`", "`..=`"]

/-- The operators that a range without a second bound may stand before. -/
def afterOpenRange : List String :=
  [",", ";", "?", "=>", "=", "+", "/", "%", "^", ">", "<=", "!=", "-=", "*=", "&=", "|=", "<<="]

/-- Whether a range has no second bound. -/
def atOpenEnd (records : Bool) (tokens : List Token) : Bool :=
  tokens.isEmpty || atPoint tokens || (!records && atGroup .curly tokens) || atWord "as" tokens ||
    afterOpenRange.any (atMarks · tokens)

/-- A range after its first bound, if it has one. -/
def rangeAfter (nested : Nested) (records : Bool) (start : Option Phrase) : Parse Phrase := do
  let limits ← rangeLimits
  if limits == ".." && (← look (atOpenEnd records)) then return .range start limits none
  else return .range start limits (some (← nested.rightOperand records .range))

/-- The test whether a value matches a pattern. -/
def matching (nested : Nested) (records : Bool) : Parse Phrase := do
  requireWord "let"
  let pattern ← anyPattern nested
  requireMarks "="
  return .matching pattern (← nested.expression records .compare)

/-- Whether an expression that begins with a path stands at the front. -/
def atPathExpression (tokens : List Token) : Bool :=
  atPath tokens ||
    (atWord "try" tokens && (atMarks "!" (tokens.drop 1) || atMarks "::" (tokens.drop 1)))

end RecordDerive.Grammar.Parse
