import RecordDerive.Grammar.Type

/-!
# The grammar of patterns

A pattern is told by its first tokens.  Several with bars between them make up
one wherever nothing else could follow a bar.
-/

namespace RecordDerive.Grammar.Parse

/-! ## Alternatives -/

/-- Whether a bar stands at the front that divides patterns. -/
def atBar (tokens : List Token) : Bool :=
  atMarks "|" tokens && !atMarks "||" tokens && !atMarks "|=" tokens

/-- Patterns with bars between them, and perhaps one before the first. -/
def anyPattern (nested : Nested) : Parse Phrase := do
  let leading ← acceptMarks "|"
  let first ← nested.pattern
  let more ← manyWhile atBar (requireMarks "|" *> nested.pattern) nested.steps
  if leading || !more.isEmpty then return .alternatives (first :: more) else return first

/-! ## Ranges -/

/-- Whether nothing that bounds a range stands at the front. -/
def atRangeEnd (tokens : List Token) : Bool :=
  tokens.isEmpty || atMarks "|" tokens || atMarks "=" tokens || atColon tokens ||
    atMarks "," tokens || atMarks ";" tokens || atWord "if" tokens

/-- What may bound a range. -/
def rangeBoundStarts : List String :=
  ["literal", "identifier", "`::`", "`<`", "`self`", "`Self`", "`super`", "`crate`", "`const`"]

/-- A block that is evaluated early. -/
def constantBlock (nested : Nested) : Parse Phrase := do
  requireWord "const"
  blockExpression nested .constant none

/-- What bounds a range, if anything does. -/
def rangeBound (nested : Nested) : Parse (Option Phrase) := do
  let tokens ← ahead
  if atRangeEnd tokens then return none
  else if atLiteral tokens then return some (.literal (← literal))
  else if atPath tokens then return some (← qualifiedPath nested true)
  else if atWord "const" tokens then return some (← constantBlock nested)
  else refuse rangeBoundStarts

/-- The points between the bounds of a range.  Three of them are an older form of
a range that holds its end, and spelled as such. -/
def patternLimits : Parse String := do
  if ← acceptMarks "..=" then return "..="
  else if ← skipMarks "..." then
    spell (operatorTokens "..=".toList)
    return "..="
  else
    requireMarks ".."
    return ".."

/-- A range after its first bound. -/
def rangeFrom (nested : Nested) (start : Phrase) : Parse Phrase := do
  let limits ← patternLimits
  let finish ← rangeBound nested
  if limits == "..=" && finish.isNone then refuse ["range upper bound"]
  return .range (some start) limits finish

/-- A range without a first bound, or all that is left of a list. -/
def rangeTo (nested : Nested) : Parse Phrase := do
  let limits ← if ← acceptMarks "..=" then pure "..=" else requireMarks ".." *> pure ".."
  match ← rangeBound nested with
  | some finish => return .range none limits (some finish)
  | none => if limits == "..=" then refuse ["range upper bound"] else return .fixed ".."

/-- A literal or block, or a range that begins with one. -/
def literalPattern (nested : Nested) : Parse Phrase := do
  match ← rangeBound nested with
  | some start => if ← look (atMarks "..") then rangeFrom nested start else return start
  | none => refuse rangeBoundStarts

/-! ## Patterns with names -/

/-- A name that is bound. -/
def namePattern (nested : Nested) : Parse Phrase := do
  let reference ← optionalWord "ref"
  let mutable ← optionalWord "mut"
  let name ← if ← look (atWord "self") then anyWord else name
  let inner ← if ← acceptMarks "@" then some <$> nested.pattern else pure none
  return .named (reference ++ mutable) name inner

/-- The name or position of a field. -/
def memberName : Parse String := do
  let tokens ← ahead
  if atName tokens then name
  else
    match tokens with
    | .literal text :: rest =>
      if isNumber text && !Literal.isFractional text then
        match Literal.position text with
        | .ok position =>
          advance rest [.literal (toString position)]
          return toString position
        | .error cause => throw (.badPosition cause)
      else refuse ["identifier", "integer"]
    | .mark '-' _ :: .literal text :: _ =>
      if isNumber text && !Literal.isFractional text then
        throw (.badPosition
          (match Literal.position ("-" ++ text) with | .error cause => cause | .ok _ => .negative))
      else refuse ["identifier", "integer"]
    | _ => refuse ["identifier", "integer"]

/-- Whether a member is called by a name. -/
def isNamedMember (member : String) : Bool :=
  !isNumber member

/-- A field of a record pattern. -/
def fieldPattern (nested : Nested) : Parse Phrase := do
  let start ← get
  let boxed ← acceptWord "box"
  let reference ← optionalWord "ref"
  let mutable ← optionalWord "mut"
  let isBare := !boxed && reference.isEmpty && mutable.isEmpty
  let member ← if isBare then memberName else name
  if (isBare && (← look (atMarks ":"))) || !isNamedMember member then
    requireMarks ":"
    return .typed (.fixed member) (← anyPattern nested)
  else if boxed then return .verbatim .pattern (← sourceSince start)
  else return .named (reference ++ mutable) member none

/-- The fields of a record pattern, and what stands for all others. -/
def fieldPatterns (nested : Nested) : Nat → Parse (List Phrase × Option Phrase)
  | 0 => throw .outOfSteps
  | steps + 1 => do
    if ← atEnd then return ([], none)
    let decorations ← outerDecorations nested
    if ← acceptMarks ".." then
      return ([], some ((Phrase.fixed "..").decorate decorations))
    else
      let first := (← fieldPattern nested).decorate decorations
      if ← atEnd then return ([first], none)
      requireMarks ","
      let (more, rest) ← fieldPatterns nested steps
      return (first :: more, rest)

/-- A pattern that begins with a path. -/
def pathPattern (nested : Nested) : Parse Phrase := do
  let (found, isPlain) ← expandablePath nested true
  match ← expanded? found isPlain with
  | some expansion => return expansion
  | none =>
    let tokens ← ahead
    if atGroup .curly tokens then
      let (fields, rest) ← inGroup .curly (fieldPatterns nested nested.steps)
      return .recordPattern found fields rest
    else if atGroup .round tokens then
      return .appliedPattern found
        (← inGroup .round (separated "," (anyPattern nested) nested.steps))
    else if atMarks ".." tokens then rangeFrom nested found
    else return found

/-! ## Patterns in brackets -/

/-- Whether the last token before some others is a comma. -/
def endsInComma (before after : List Token) : Bool :=
  match (before.take (before.length - after.length)).getLast? with
  | some (.mark ',' _) => true
  | _ => false

/-- A pattern in parentheses, or several. -/
def parenthesizedPattern (nested : Nested) : Parse Phrase :=
  inGroup .round do
    let tokens ← ahead
    let elements ← separated "," (anyPattern nested) nested.steps
    let comma := endsInComma tokens (← ahead)
    match elements with
    | [.fixed ".."] => return .tuplePattern elements comma
    | [only] => if comma then return .tuplePattern elements comma else return .parenthesized only
    | _ => return .tuplePattern elements comma

/-- An element of a slice pattern. -/
def slicePatternElement (nested : Nested) : Parse Phrase := do
  let found ← anyPattern nested
  match found with
  | .range none _ _ | .range _ _ none => forbid .openRangeInSlice
  | _ => return found

/-! ## Patterns -/

/-- What may begin a pattern. -/
def patternStarts : List String :=
  ["identifier", "`::`", "`<`", "`_`", "literal", "`const`", "`ref`", "`mut`", "`&`", "parentheses",
    "square brackets", "`..`"]

/-- Whether a pattern that begins with a path stands at the front. -/
def atPathPattern (tokens : List Token) : Bool :=
  let next := tokens.drop 1
  (atName tokens &&
      (atMarks "::" next || atMarks "!" next || atGroup .curly next || atGroup .round next ||
        atMarks ".." next)) ||
    (atWord "self" tokens && atMarks "::" next) || atMarks "::" tokens || atMarks "<" tokens ||
    atOneOf ["Self", "super", "crate"] tokens

/-- A pattern that is no choice between several. -/
def pattern (nested : Nested) : Parse Phrase := do
  let start ← get
  let tokens := start.ahead
  if atPathPattern tokens then pathPattern nested
  else if atWord "_" tokens then
    requireWord "_"
    return .fixed "_"
  else if atWord "box" tokens then
    requireWord "box"
    let _ ← nested.pattern
    return .verbatim .pattern (← sourceSince start)
  else if atMarks "-" tokens || atLiteral tokens || atWord "const" tokens then
    literalPattern nested
  else if atName tokens || atOneOf ["ref", "mut", "self"] tokens then namePattern nested
  else if atMarks "&" tokens then
    requireMarks "&"
    let mutable ← optionalWord "mut"
    return .unary ("&" ++ mutable) (← nested.pattern)
  else if atGroup .round tokens then parenthesizedPattern nested
  else if atGroup .square tokens then
    return .slicePattern
      (← inGroup .square (separated "," (slicePatternElement nested) nested.steps))
  else if atMarks ".." tokens && !atMarks "..." tokens then rangeTo nested
  else refuse (if atMarks "..." tokens then patternStarts.dropLast else patternStarts)

end RecordDerive.Grammar.Parse
