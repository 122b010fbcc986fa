import RecordDerive.Grammar.Bound

/-!
# The grammar of types

A type is told by its first token.  A sum of bounds may stand for a type, but not
behind a sign or an arrow, where it would take what follows for its own.
-/

namespace RecordDerive.Grammar.Parse

/-! ## Function types -/

/-- Whether a function type stands at the front. -/
def atFunction (tokens : List Token) : Bool :=
  atOneOf ["fn", "unsafe", "extern"] tokens

/-- The linkage of a function, if there is a keyword for it. -/
def linkage : Parse String := do
  if ← acceptWord "extern" then
    if ← look atText then return "extern " ++ (← literal) ++ " " else return "extern "
  else return ""

/-- Whether the sign for further parameters stands at the front, perhaps under a
name. -/
def atMore (tokens : List Token) : Bool :=
  atMarks "..." tokens ||
    ((atName tokens || atWord "_" tokens) && atMarks ":" (tokens.drop 1) &&
      atMarks "..." (tokens.drop 2))

/-- Any number of further parameters, perhaps under a name. -/
def moreParameters : Parse Phrase := do
  let tokens ← ahead
  let dots : Phrase := .fixed "..."
  if atName tokens || atWord "_" tokens then
    let name ← anyWord
    requireMarks ":"
    requireMarks "..."
    return .typed (.fixed name) dots
  else
    requireMarks "..."
    return dots

/-- A parameter of a function type.  Only the first may be the value that a
method belongs to; one that can be changed is accepted without a layout. -/
def functionParameter (nested : Nested) (isFirst : Bool) : Parse Phrase := do
  let start ← get
  let isChangeable :=
    isFirst && atWord "mut" start.ahead && atWord "self" (start.ahead.drop 1)
  if isChangeable then requireWord "mut"
  let tokens ← ahead
  let isNamed :=
    (atName tokens || atWord "_" tokens || (isFirst && atWord "self" tokens)) &&
      atColon (tokens.drop 1)
  if isNamed then
    let name ← anyWord
    requireMarks ":"
    let type ← nested.type true
    if isChangeable then return .verbatim .type (← sourceSince start)
    else return .typed (.fixed name) type
  else if isChangeable then
    requireWord "self"
    return .verbatim .type (← sourceSince start)
  else nested.type true

/-- The parameters of a function type, and whether there may be more. -/
def functionParameters (nested : Nested) (isFirst : Bool) :
    Nat → Parse (List Phrase × Option Phrase)
  | 0 => throw .outOfSteps
  | steps + 1 => do
    if ← atEnd then return ([], none)
    let decorations ← outerDecorations nested
    if ← look atMore then
      let more ← moreParameters
      let _ ← acceptMarks ","
      return ([], some (more.decorate decorations))
    else
      let first ← functionParameter nested isFirst
      let first := first.decorate decorations
      if ← atEnd then return ([first], none)
      requireMarks ","
      let (rest, more) ← functionParameters nested false steps
      return (first :: rest, more)

/-- A function type. -/
def functionType (nested : Nested) : Parse Phrase := do
  let safety ← optionalWord "unsafe"
  let linkage ← linkage
  requireWord "fn"
  let (parameters, more) ← inGroup .round (functionParameters nested true nested.steps)
  return .function (safety ++ linkage ++ "fn(") parameters more (← output nested false)

/-! ## Types by paths -/

/-- Whether a path stands at the front that begins with a name or keyword. -/
def atNamedPath (tokens : List Token) : Bool :=
  atName tokens || atOneOf pathKeywords tokens

/-- Whether a path stands at the front. -/
def atPath (tokens : List Token) : Bool :=
  atNamedPath tokens || atMarks "::" tokens || atMarks "<" tokens

/-- A type that begins with a path. -/
def pathType (nested : Nested) (plus : Bool) (parameters : Option (List Phrase)) :
    Parse Phrase := do
  let (found, isPlain) ← expandablePath nested false
  match found with
  | .projection .. => return found
  | _ =>
    match ← expanded? found isPlain with
    | some expansion => return expansion
    | none =>
      if parameters.isSome || (plus && (← look (atMarks "+"))) then
        let more ← if plus then moreBounds nested ⟨false, false⟩ nested.steps else pure []
        return .object false (quantify parameters found :: more)
      else return found

/-! ## Types in brackets -/

/-- A type in parentheses as the first of several bounds, if it can be one.  A
sum is none, nor is one that ends in a plus sign. -/
def asBound (endsOpen : Bool) : Phrase → Option Phrase
  | .path rooted steps => some (.parenthesized (.path rooted steps))
  | .object false [.lifetime name] => if endsOpen then none else some (.lifetime name)
  | .object false [only] => if endsOpen then none else some (.parenthesized only)
  | _ => none

/-- What stands between parentheses: nothing, one type, or the elements of a
tuple. -/
inductive Inside
  | unit
  | lifetimes (type : Phrase)
  | relaxed (bound : Phrase)
  | single (type : Phrase) (endsOpen : Bool)
  | several (elements : List Phrase)

/-- Whether the last token before some others is a plus sign. -/
def endsInPlus (before after : List Token) : Bool :=
  match (before.take (before.length - after.length)).getLast? with
  | some (.mark '+' _) => true
  | _ => false

/-- The types between parentheses. -/
def insideParentheses (nested : Nested) : Parse Inside := do
  let tokens ← ahead
  if tokens.isEmpty then return .unit
  else if atLifetime tokens then
    return .lifetimes (.object false
      (← bounds nested ⟨false, false⟩ true .objectWithoutTrait))
  else if atMarks "?" tokens then
    return .relaxed (← plainTraitBound nested)
  else
    let first ← nested.type true
    if ← acceptMarks "," then
      return .several (first :: (← separated "," (nested.type true) nested.steps))
    else return .single first (endsInPlus tokens (← ahead))

/-- A tuple, a type in parentheses, or bounds of which the first is in
parentheses. -/
def parenthesizedType (nested : Nested) (plus : Bool) : Parse Phrase := do
  match ← inGroup .round (insideParentheses nested) with
  | .unit => return .tuple []
  | .lifetimes type => return .parenthesized type
  | .relaxed first => return .object false (.parenthesized first :: (← addedBounds nested))
  | .several elements => return .tuple elements
  | .single type endsOpen =>
    match asBound endsOpen type, plus && (← look (atMarks "+")) with
    | some first, true => return .object false (first :: (← addedBounds nested))
    | _, _ => return .parenthesized type

/-- An array or slice type. -/
def bracketedType (nested : Nested) : Parse Phrase :=
  inGroup .square do
    let element ← nested.type true
    if ← acceptMarks ";" then
      return .array element (← nested.anyExpression)
    else return .slice element

/-! ## Types behind signs and keywords -/

/-- A type behind the keyword for some type.  A star after the keyword makes it
a form that is accepted without a layout. -/
def objectType (nested : Nested) (plus : Bool) : Parse Phrase := do
  let start ← get
  requireWord "dyn"
  let starred ← acceptMarks "*"
  let found ← bounds nested ⟨false, false⟩ plus .objectWithoutTrait
  if starred then return .verbatim .type (← sourceSince start) else return .object true found

/-- A pointer type. -/
def pointerType (nested : Nested) : Parse Phrase := do
  requireMarks "*"
  let mutable ←
    if ← acceptWord "const" then pure false
    else if ← acceptWord "mut" then pure true
    else refuse ["`const`", "`mut`"]
  return .pointer mutable (← nested.type false)

/-- A reference type. -/
def referenceType (nested : Nested) : Parse Phrase := do
  requireMarks "&"
  let lifetime ← acceptLifetime
  let mutable ← acceptWord "mut"
  return .reference lifetime mutable (← nested.type false)

/-- Whether a built-in form stands at the front. -/
def atBuiltin (tokens : List Token) : Bool :=
  atWord "builtin" tokens && atMarks "#" (tokens.drop 1)

/-- A built-in form, which is accepted without a layout. -/
def builtin (kind : Unsupported) : Parse Phrase := do
  let start ← get
  requireWord "builtin"
  requireMarks "#"
  let _ ← name
  let tokens ← ahead
  if atGroup .round tokens then
    let _ ← anyGroup (groupName .round)
    return .verbatim kind (← sourceSince start)
  else refuse [groupName .round]

/-! ## Types -/

/-- What may begin a type. -/
def typeStarts : List String :=
  ["`for`", "parentheses", "`fn`", "`unsafe`", "`extern`", "identifier", "`::`", "`<`", "`dyn`",
    "square brackets", "`*`", "`&`", "`!`", "`impl`", "`_`", "lifetime"]

/-- What may follow the parameters introduced for a type. -/
def quantifiedStarts : List String :=
  ["identifier", "`fn`", "`unsafe`", "`extern`", "`super`", "`self`", "`Self`", "`crate`"]

/-- A type under parameters introduced for it. -/
def quantifiedType (nested : Nested) (plus : Bool) : Parse Phrase := do
  let parameters ← binder nested
  let tokens ← ahead
  if atFunction tokens then
    return quantify parameters (← functionType nested)
  else if atBuiltin tokens then builtin .type
  else if atNamedPath tokens then
    pathType nested plus parameters
  else refuse quantifiedStarts

/-- A type. -/
def type (nested : Nested) (plus : Bool) : Parse Phrase := do
  let tokens ← ahead
  if atWord "for" tokens then quantifiedType nested plus
  else if atGroup .round tokens then parenthesizedType nested plus
  else if atFunction tokens then functionType nested
  else if atBuiltin tokens then builtin .type
  else if atPath tokens then pathType nested plus none
  else if atWord "dyn" tokens then objectType nested plus
  else if atGroup .square tokens then bracketedType nested
  else if atMarks "*" tokens then pointerType nested
  else if atMarks "&" tokens then referenceType nested
  else if atMarks "!" tokens then
    requireMarks "!"
    return .fixed "!"
  else if atWord "impl" tokens then
    requireWord "impl"
    return .existential (← bounds nested ⟨true, true⟩ plus .existentialWithoutTrait)
  else if atWord "_" tokens then
    requireWord "_"
    return .fixed "_"
  else if atLifetime tokens then
    return .object false (← bounds nested ⟨false, false⟩ true .objectWithoutTrait)
  else refuse typeStarts

end RecordDerive.Grammar.Parse
