import RecordDerive.Grammar.Path

/-!
# The grammar of generic parameters

Parameters are introduced for a phrase, behind a keyword of their own, or for an
item, which may put conditions on them.
-/

namespace RecordDerive.Grammar.Parse

/-! ## Parameters -/

/-- Whether the bounds of a lifetime parameter end at the front. -/
def atLifetimeParameterEnd (tokens : List Token) : Bool :=
  tokens.isEmpty || atMarks "," tokens || atMarks ">" tokens

/-- A lifetime that is introduced. -/
def lifetimeParameter (nested : Nested) : Parse Phrase := do
  let lifetime ← requireLifetime
  let bounds ←
    if ← acceptMarks ":" then summed atLifetimeParameterEnd requireLifetime nested.steps
    else pure []
  return .lifetimeParameter lifetime bounds

/-- Whether the bounds of a type parameter end at the front. -/
def atTypeParameterEnd (tokens : List Token) : Bool :=
  atMarks "," tokens || atMarks ">" tokens || atMarks "=" tokens

/-- A type that is introduced. -/
def typeParameter (nested : Nested) : Parse Phrase := do
  let name ← name
  let bounds ←
    if ← acceptMarks ":" then summed atTypeParameterEnd nested.itemBound nested.steps
    else pure []
  let default ← if ← acceptMarks "=" then some <$> nested.type true else pure none
  return .typeParameter name bounds default

/-- The constant that a constant parameter stands for if no other is given. -/
def defaultConstant (nested : Nested) : Parse Phrase := do
  let tokens ← ahead
  if atConstant tokens then constant nested
  else if atName tokens then return .plainPath false [← name]
  else refuse []

/-- A constant that is introduced. -/
def constantParameter (nested : Nested) : Parse Phrase := do
  requireWord "const"
  let name ← name
  requireMarks ":"
  let type ← nested.type true
  let default ← if ← acceptMarks "=" then some <$> defaultConstant nested else pure none
  return .constantParameter name type default

/-- A parameter that a phrase introduces. -/
def binderParameter (nested : Nested) : Parse Phrase := do
  let decorations ← outerDecorations nested
  let tokens ← ahead
  let parameter ←
    if atName tokens then typeParameter nested
    else if atLifetime tokens then lifetimeParameter nested
    else if atWord "const" tokens then constantParameter nested
    else refuse ["identifier", "lifetime", "`const`"]
  return parameter.decorate decorations

/-- Read items with commas between them up to a closing angle bracket, which is
not consumed. -/
def upToAngle {α : Type} (item : Parse α) : Nat → Parse (List α)
  | 0 => throw .outOfSteps
  | steps + 1 => do
    if ← look (atMarks ">") then return []
    let first ← item
    if ← look (atMarks ">") then return [first]
    requireMarks ","
    return first :: (← upToAngle item steps)

/-- The parameters that a phrase introduces after its keyword. -/
def binder (nested : Nested) : Parse (Option (List Phrase)) := do
  if ← acceptWord "for" then
    requireMarks "<"
    let parameters ← upToAngle (binderParameter nested) nested.steps
    requireMarks ">"
    return some parameters
  else return none

/-- A phrase under the parameters introduced for it. -/
def quantify (parameters : Option (List Phrase)) (inner : Phrase) : Phrase :=
  match parameters with
  | some parameters => .quantified parameters inner
  | none => inner

/-- A parameter of an item. -/
def itemParameter (nested : Nested) : Parse Phrase := do
  let decorations ← outerDecorations nested
  let tokens ← ahead
  let parameter ←
    if atLifetime tokens then lifetimeParameter nested
    else if atName tokens then typeParameter nested
    else if atWord "const" tokens then constantParameter nested
    else if atWord "_" tokens then pure (Phrase.typeParameter (← anyWord) [] none)
    else refuse ["lifetime", "identifier", "`const`"]
  return parameter.decorate decorations

/-- The parameters of an item, lifetimes first.  An empty list is as good as
none, and what is read tells them apart. -/
def generics (nested : Nested) : Parse (Option (List Phrase)) := do
  if ← look (atMarks "<") then
    let (parameters, spelling) ← apart do
      requireMarks "<"
      let parameters ← sorted Phrase.introducesLifetime (itemParameter nested) nested.steps
      requireMarks ">"
      return parameters
    unless parameters.isEmpty do spell spelling
    return some parameters
  else return none

/-! ## Conditions -/

/-- Whether the conditions on an item, or the bounds of one of them, end at the
front. -/
def atConditionEnd (tokens : List Token) : Bool :=
  tokens.isEmpty || atGroup .curly tokens || atMarks "," tokens || atMarks ";" tokens ||
    atColon tokens || atMarks "=" tokens

/-- Whether the bounds of a lifetime end at the front. -/
def atLifetimeConditionEnd (tokens : List Token) : Bool :=
  atConditionEnd tokens || atMarks ":" tokens

/-- A lifetime as a phrase. -/
def lifetime : Parse Phrase := do
  return .lifetime (← requireLifetime)

/-- A condition on an item. -/
def condition (nested : Nested) : Parse Phrase := do
  let tokens ← ahead
  if atLifetime tokens && atMarks ":" (afterOne tokens) then
    let subject ← lifetime
    requireMarks ":"
    return .predicate subject (← summed atLifetimeConditionEnd lifetime nested.steps)
  else
    let parameters ← binder nested
    let subject ← nested.type true
    requireMarks ":"
    return quantify parameters
      (.predicate subject (← summed atConditionEnd nested.itemBound nested.steps))

/-- Conditions with commas between them. -/
def conditions (nested : Nested) : Nat → Parse (List Phrase)
  | 0 => throw .outOfSteps
  | steps + 1 => do
    if ← look atConditionEnd then return []
    let first ← condition nested
    if ← acceptMarks "," then return first :: (← conditions nested steps)
    else return [first]

/-- The conditions on an item, if there is a keyword for them.  No condition
after the keyword is as good as no keyword. -/
def whereClause (nested : Nested) : Parse (Option (List Phrase)) := do
  if ← look (atWord "where") then
    let (found, spelling) ← apart do
      requireWord "where"
      conditions nested nested.steps
    unless found.isEmpty do spell spelling
    return some found
  else return none

end RecordDerive.Grammar.Parse
