import RecordDerive.Grammar.Operand

/-!
# The grammar of statements

A statement is told from an expression by its first tokens.  A semicolon must
stand between two statements unless the first ends in a block.
-/

namespace RecordDerive.Grammar.Parse

/-! ## What stands ahead -/

/-- The tokens after a plain path, if one stands ahead. -/
def afterPlainPath (nested : Nested) : Parse (Option (List Token)) := do
  let start ← get
  let found ← attempt (plainPath nested.steps)
  let after ← ahead
  set start
  return found.map fun _ => after

/-- Whether an item stands at the front that begins with a keyword. -/
def atItem (tokens : List Token) : Bool :=
  let next := tokens.drop 1
  let third := tokens.drop 2
  let isFunction := atOneOf ["unsafe", "extern", "fn"]
  atOneOf ["pub", "extern", "use", "fn", "mod", "type", "struct", "enum", "trait", "impl", "macro"]
      tokens ||
    (atWord "crate" tokens && !atMarks "::" next) ||
    (atWord "static" tokens &&
      (atWord "mut" next ||
        (atName next && !(atWord "async" next && (atWord "move" third || atMarks "|" third))))) ||
    (atWord "const" tokens &&
      !(atGroup .curly next || atWord "static" next || (atWord "async" next && !isFunction third) ||
        atWord "move" next || atMarks "|" next)) ||
    (atWord "unsafe" tokens && !atGroup .curly next) ||
    (atWord "async" tokens && isFunction next) ||
    (atWord "union" tokens && atName next) ||
    (atWord "auto" tokens && atWord "trait" next) ||
    (atWord "default" tokens && atOneOf ["unsafe", "impl"] next)

/-- How an expansion stands among statements. -/
inductive ExpansionRole
  /-- It is an item with a name. -/
  | item
  /-- It is all of a statement. -/
  | statement
  deriving Repr, DecidableEq

/-- The role of an expansion by what follows its path, if it is no
expression. -/
def expansionRole? (afterPath : List Token) : Option ExpansionRole :=
  let next := afterPath.drop 1
  if !atMarks "!" afterPath then none
  else if atName next || atWord "try" next then some .item
  else if atGroup .curly next && !(atPoint (next.drop 1) || atMarks "?" (next.drop 1)) then
    some .statement
  else none

/-! ## Statements -/

/-- A statement that introduces names, after its decorations. -/
def letStatement (nested : Nested) : Parse Phrase := do
  requireWord "let"
  let pattern ← nested.pattern
  let pattern ←
    if ← acceptMarks ":" then pure (Phrase.typed pattern (← nested.type true)) else pure pattern
  let (value, otherwise) ←
    if ← acceptMarks "=" then do
      let value ← nested.anyExpression
      if !value.endsInBraces && (← look (atWord "else")) then
        requireWord "else"
        pure (some value, some (Phrase.block .plain none [] (← plainBlock nested)))
      else pure (some value, none)
    else pure (none, none)
  requireMarks ";"
  return .letStatement pattern value otherwise

/-- An expression as a statement, or as the value of a block. -/
def expressionStatement (nested : Nested) : Parse Phrase := do
  let value ← nested.alternative
  let terminated ← acceptMarks ";"
  match value with
  | .expansion _ bracket _ =>
    if terminated || bracket = .curly then return .expansionStatement value terminated
    else return .expressionStatement value false
  | .decorated decorations (.expansion path bracket tokens) =>
    if terminated || bracket = .curly then
      let expansion := Phrase.expansion path bracket tokens
      return .decorated decorations (.expansionStatement expansion terminated)
    else return .expressionStatement value false
  | _ => return .expressionStatement value terminated

/-- A statement. -/
def statement (nested : Nested) : Parse Phrase := do
  let start ← get
  let decorations ← outerDecorations nested
  let tokens ← ahead
  match (← afterPlainPath nested).bind expansionRole? with
  | some .statement =>
    let expansion ← expansion nested
    let terminated ← acceptMarks ";"
    return (Phrase.expansionStatement expansion terminated).decorate decorations
  | some .item =>
    set start
    nested.item
  | none =>
    if atWord "let" tokens then return (← letStatement nested).decorate decorations
    else
      set start
      if atItem tokens then nested.item else expressionStatement nested

/-- Whether a statement needs a semicolon before another. -/
def isOpen : Phrase → Bool
  | .expressionStatement value false => value.needsSemicolon
  | _ => false

/-- The statements up to the end of a block. -/
def statements (nested : Nested) : Nat → Parse (List Phrase)
  | 0 => throw .outOfSteps
  | steps + 1 => do
    if ← acceptMarks ";" then return .emptyStatement :: (← statements nested steps)
    if ← atEnd then return []
    let first ← statement nested
    if ← atEnd then return [first]
    if isOpen first then forbid .runningStatement
    return first :: (← statements nested steps)

end RecordDerive.Grammar.Parse
