import RecordDerive.Grammar.Generics

/-!
# The grammar of bounds

A bound is a lifetime, a list of captured parameters, or a trait.  What else may
stand before a trait is accepted only in some places, and has no layout there.
-/

namespace RecordDerive.Grammar.Parse

/-! ## Captured parameters -/

/-- Whether something stands at the front that may be captured. -/
def atCaptured (tokens : List Token) : Bool :=
  atLifetime tokens || atName tokens || atWord "Self" tokens

/-- The captured parameters up to a closing angle bracket. -/
def capturedParameters : Nat → Parse (List String)
  | 0 => throw .outOfSteps
  | steps + 1 => do
    let tokens ← ahead
    if atMarks ">" tokens then return []
    unless atCaptured tokens do refuse ["lifetime", "identifier", "`>`"]
    let first ← if atLifetime tokens then requireLifetime else anyWord
    if ← look (atMarks ">") then return [first]
    if ← look (atMarks ",") then
      requireMarks ","
      return first :: (← capturedParameters steps)
    else refuse ["`,`", "`>`"]

/-- The captured parameters behind their keyword. -/
def capture (nested : Nested) : Parse Phrase := do
  requireWord "use"
  requireMarks "<"
  let names ← capturedParameters nested.steps
  requireMarks ">"
  return .capture names

/-! ## Bounds -/

/-- A trait with what may stand before it, and whether it holds in constant
contexts. -/
def traitBound (nested : Nested) (rule : BoundRule) : Parse (Phrase × Bool) := do
  let parameters ← binder nested
  let tokens ← ahead
  let isConstant ←
    if atGroup .square tokens then
      inGroup .square (requireWord "const")
      if rule.constant then pure true else forbid .conditionalConstantBound
    else if atWord "const" tokens then
      requireWord "const"
      if rule.constant then pure true else forbid .constantBound
    else pure false
  let relaxed ← acceptMarks "?"
  let parameters ← if relaxed && parameters.isNone then binder nested else pure parameters
  let found ← applied nested (← path nested false)
  if relaxed && parameters.isSome then forbid .relaxedBinder
  let bound := if relaxed then .relaxed found else found
  return (quantify parameters bound, isConstant)

/-- A trait where no constant context may be asked for. -/
def plainTraitBound (nested : Nested) : Parse Phrase :=
  Prod.fst <$> traitBound nested ⟨false, false⟩

/-- A bound. -/
def bound (nested : Nested) (rule : BoundRule) : Parse Phrase := do
  let tokens ← ahead
  if atLifetime tokens then lifetime
  else if atWord "use" tokens then
    let found ← capture nested
    if rule.capture then return found else forbid .capture
  else
    let start ← get
    let (found, isConstant) ←
      if atGroup .round tokens then
        let (found, isConstant) ← inGroup .round (traitBound nested rule)
        pure (Phrase.parenthesized found, isConstant)
      else traitBound nested rule
    if isConstant then return .verbatim .bound (← sourceSince start) else return found

/-- Whether a bound may follow a plus sign. -/
def atBound (constant : Bool) (tokens : List Token) : Bool :=
  atAnyWord tokens || atMarks "::" tokens || atMarks "?" tokens || atLifetime tokens ||
    atGroup .round tokens || (constant && (atGroup .square tokens || atWord "const" tokens))

/-- Bounds after plus signs; a sign that no bound follows ends them. -/
def moreBounds (nested : Nested) (rule : BoundRule) : Nat → Parse (List Phrase)
  | 0 => throw .outOfSteps
  | steps + 1 => do
    if ← acceptMarks "+" then
      if ← look (atBound rule.constant) then
        let first ← bound nested rule
        return first :: (← moreBounds nested rule steps)
      else return []
    else return []

/-- Bounds each after a plus sign. -/
def addedBounds (nested : Nested) : Parse (List Phrase) :=
  manyWhile (atMarks "+") (requireMarks "+" *> bound nested ⟨false, false⟩) nested.steps

/-- Bounds, of which there may be several where `plus` says so.  One of them must
be by a trait. -/
def bounds (nested : Nested) (rule : BoundRule) (plus : Bool) (lack : Misplaced) :
    Parse (List Phrase) := do
  let first ← bound nested rule
  let more ← if plus then moreBounds nested rule nested.steps else pure []
  let found := first :: more
  if found.any Phrase.isTrait then return found else forbid lack

end RecordDerive.Grammar.Parse
