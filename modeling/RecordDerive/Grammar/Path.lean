import RecordDerive.Grammar.Decoration

/-!
# The grammar of paths

A path is a sequence of steps, each with generic arguments or without.  Only a
bound may apply its last step like a function type.
-/

namespace RecordDerive.Grammar.Parse

/-! ## Generic arguments -/

/-- A literal or block that stands for a constant. -/
def constant (nested : Nested) : Parse Phrase := do
  if ← look atLiteral then return .literal (← literal)
  else blockExpression nested .plain none

/-- Whether a constant stands at the front of generic arguments. -/
def atConstant (tokens : List Token) : Bool :=
  atLiteral tokens || atGroup .curly tokens

/-- Bounds inside items and generic arguments. -/
def Nested.itemBound (nested : Nested) : Parse Phrase :=
  nested.bound ⟨false, true⟩

/-- The value of an associated type or constant. -/
def bindingValue (nested : Nested) : Parse Phrase := do
  if ← look atConstant then constant nested else nested.type true

/-- Whether the bounds of a generic argument end at the front. -/
def atArgumentEnd (tokens : List Token) : Bool :=
  atMarks "," tokens || atMarks ">" tokens

/-- A generic argument. -/
def argument (nested : Nested) : Parse Phrase := do
  let tokens ← ahead
  if atLifetime tokens && !atMarks "+" (afterOne tokens) then
    return .lifetime (← requireLifetime)
  else if atConstant tokens then
    constant nested
  else
    let type ← nested.type true
    match type with
    | .path false [.step name _ arguments] =>
      if ← acceptMarks "=" then
        return .binding name arguments (← bindingValue nested)
      else if ← acceptMarks ":" then
        return .constraint name arguments
          (← summed atArgumentEnd nested.itemBound nested.steps)
      else return type
    | _ => return type

/-- Generic arguments in angle brackets, lifetimes first. -/
def arguments (nested : Nested) : Parse (List Phrase) := do
  requireMarks "<"
  let found ← sorted Phrase.isLifetime (argument nested) nested.steps
  requireMarks ">"
  return found

/-! ## Steps -/

/-- The keywords that stand for a step of a path and take no arguments. -/
def stepKeywords : List String := ["super", "self", "crate", "try"]

/-- Whether generic arguments follow a step. -/
def atArguments (inExpression : Bool) (tokens : List Token) : Bool :=
  (!inExpression && atMarks "<" tokens && !atMarks "<=" tokens) ||
    (atMarks "::" tokens && atMarks "<" (tokens.drop 2))

/-- A step of a path. -/
def step (nested : Nested) (inExpression : Bool) : Parse Phrase := do
  let tokens ← ahead
  if atOneOf stepKeywords tokens then
    return .plainStep (← anyWord)
  else
    let name ← if atWord "Self" tokens then anyWord else name
    if ← look (atArguments inExpression) then
      let _ ← acceptMarks "::"
      return .step name inExpression (← arguments nested)
    else return .plainStep name

/-- The steps of a path after those already read. -/
def moreSteps (nested : Nested) (inExpression : Bool) : Parse (List Phrase) :=
  manyWhile (fun tokens => atMarks "::" tokens && !atGroup .round (tokens.drop 2))
    (requireMarks "::" *> step nested inExpression) nested.steps

/-- A path. -/
def path (nested : Nested) (inExpression : Bool) : Parse Phrase := do
  let rooted ← acceptMarks "::"
  let first ← step nested inExpression
  return .path rooted (first :: (← moreSteps nested inExpression))

/-- The steps of a projection, which end where no `::` follows one. -/
def projectedSteps (nested : Nested) (inExpression : Bool) : Nat → Parse (List Phrase)
  | 0 => throw .outOfSteps
  | steps + 1 => do
    let first ← step nested inExpression
    if ← acceptMarks "::" then
      return first :: (← projectedSteps nested inExpression steps)
    else return [first]

/-- A path or a projection. -/
def qualifiedPath (nested : Nested) (inExpression : Bool) : Parse Phrase := do
  if ← acceptMarks "<" then
    let type ← nested.type true
    let within ← if ← acceptWord "as" then some <$> path nested false else pure none
    requireMarks ">"
    requireMarks "::"
    let steps ← projectedSteps nested inExpression nested.steps
    return .projection type within steps
  else path nested inExpression

/-! ## Expansions -/

/-- Whether tokens spell nothing but names. -/
def areNames (tokens : List Token) : Bool :=
  tokens.all fun
    | .word _ => true
    | .mark character _ => character = ':'
    | _ => false

/-- The group that an expansion of a path is given. -/
def expansionOf (path : Phrase) : Parse Phrase := do
  let (bracket, tokens) ← anyGroup "delimiter"
  return .expansion path bracket tokens

/-- A path or projection, and whether it may be expanded. -/
def expandablePath (nested : Nested) (inExpression : Bool) : Parse (Phrase × Bool) := do
  let before ← ahead
  let found ← qualifiedPath nested inExpression
  let after ← ahead
  return (found, areNames (before.take (before.length - after.length)))

/-- The expansion of a path where a mark for it follows the path. -/
def expanded? (found : Phrase) (isPlain : Bool) : Parse (Option Phrase) := do
  if isPlain && (← look atExpansion) then
    requireMarks "!"
    return some (← expansionOf found)
  else return none

/-- The expansion of a plain path, which must be one. -/
def expansion (nested : Nested) : Parse Phrase := do
  let (rooted, names) ← plainPath nested.steps
  requireMarks "!"
  expansionOf (.plainPath rooted names)

/-! ## Application -/

/-- The output after an arrow, if there is one. -/
def output (nested : Nested) (plus : Bool) : Parse (Option Phrase) := do
  if ← acceptMarks "->" then some <$> nested.type plus else return none

/-- Whether a step is applied like a function type. -/
def atApplication (tokens : List Token) : Bool :=
  atGroup .round tokens || (atMarks "::" tokens && atGroup .round (tokens.drop 2))

/-- Tokens, the latest first, without empty angle brackets before their end and
the `::` in front of these. -/
def withoutEmptyArguments : List Token → List Token
  | .mark '>' _ :: .mark '<' _ :: .mark ':' _ :: .mark ':' _ :: before => before
  | .mark '>' _ :: .mark '<' _ :: before => before
  | tokens => tokens

/-- A path whose last step is applied, if its inputs follow.  Empty generic
arguments and the `::` before the inputs are then as good as absent. -/
def applied (nested : Nested) (found : Phrase) : Parse Phrase := do
  match found with
  | .path rooted steps =>
    match steps.getLast?, ← look atApplication with
    | some (.step name _ []), true =>
      modify fun cursor => { cursor with spelled := withoutEmptyArguments cursor.spelled }
      let _ ← skipMarks "::"
      let inputs ← inGroup .round (separated "," (nested.type true) nested.steps)
      return .path rooted (steps.dropLast ++ [.appliedStep name inputs (← output nested false)])
    | _, _ => return found
  | other => return other

end RecordDerive.Grammar.Parse
