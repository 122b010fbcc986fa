import RecordDerive.Grammar.Operand

/-!
# The grammar of signatures

What items begin with: how far they are visible, their type parameters, and for
functions all up to the body.
-/

namespace RecordDerive.Grammar.Parse

/-! ## Visibility -/

/-- The text of a visibility that is restricted to a path. -/
def restrictedText (path : String) : String :=
  (if ["self", "super", "crate"].contains path then "pub(" else "pub(in ") ++ path ++ ") "

/-- How far an item is visible, with a blank after it; nothing if that is not
said. -/
def visibility (nested : Nested) : Parse String := do
  if ← acceptWord "pub" then
    match ← ahead with
    | .group .round [.word restriction] :: _ =>
      if ["self", "super", "crate"].contains restriction then
        let _ ← anyGroup (groupName .round)
        return restrictedText restriction
      else return "pub "
    | .group .round (.word "in" :: _) :: _ =>
      let path ← inGroup .round (requireWord "in" *> plainPathText nested.steps)
      return restrictedText path
    | _ => return "pub "
  else return ""

/-! ## Functions -/

/-- The tokens after a keyword, if it stands at the front. -/
def dropWord (expected : String) (tokens : List Token) : List Token :=
  if atWord expected tokens then tokens.drop 1 else tokens

/-- Whether the signature of a function stands at the front.  Only some functions
may be called safe. -/
def atSignature (safe : Bool) (tokens : List Token) : Bool :=
  let afterAsync := dropWord "async" (dropWord "const" tokens)
  let afterSafety :=
    if safe && atWord "safe" afterAsync then afterAsync.drop 1 else dropWord "unsafe" afterAsync
  let afterLinkage :=
    if atWord "extern" afterSafety then
      if atText (afterSafety.drop 1) then afterSafety.drop 2 else afterSafety.drop 1
    else afterSafety
  atWord "fn" afterLinkage

/-- The value that a method belongs to. -/
def receiver (nested : Nested) : Parse Phrase := do
  if ← acceptMarks "&" then
    let lifetime ← acceptLifetime
    let mutable ← optionalWord "mut"
    requireWord "self"
    let region := (lifetime.map (· ++ " ")).getD ""
    return .fixed ("&" ++ region ++ mutable ++ "self")
  else
    let mutable ← optionalWord "mut"
    requireWord "self"
    let self : Phrase := .fixed (mutable ++ "self")
    if ← acceptMarks ":" then return .typed self (← nested.type true) else return self

/-- A parameter of a function. -/
inductive Parameter
  | receiver (phrase : Phrase)
  | typed (phrase : Phrase)
  /-- Any number of further parameters. -/
  | more (phrase : Phrase)

/-- A parameter of a function after its decorations.  A type with arguments may
stand without a pattern. -/
def parameter (nested : Nested) : Parse Parameter := do
  if ← acceptMarks "..." then return .more (.fixed "...")
  match ← attempt (receiver nested) with
  | some found => return .receiver found
  | none =>
    if ← look fun tokens => atName tokens && atMarks "<" (tokens.drop 1) then
      spell [.word "_", .mark ':' false]
      return .typed (.typed (.fixed "_") (← nested.type true))
    else
      let pattern ← nested.pattern
      requireMarks ":"
      if ← acceptMarks "..." then return .more (.typed pattern (.fixed "..."))
      else return .typed (.typed pattern (← nested.type true))

/-- The parameters of a function, and whether there may be more.  The value that
a method belongs to comes first. -/
def parameters (nested : Nested) (received isFirst : Bool) :
    Nat → Parse (List Phrase × Option Phrase)
  | 0 => throw .outOfSteps
  | steps + 1 => do
    if ← atEnd then return ([], none)
    let decorations ← outerDecorations nested
    let go (received : Bool) (first : Phrase) : Parse (List Phrase × Option Phrase) := do
      if ← atEnd then return ([first], none)
      requireMarks ","
      let (rest, more) ← parameters nested received false steps
      return (first :: rest, more)
    match ← parameter nested with
    | .more found =>
      unless ← atEnd do requireMarks ","
      return ([], some (found.decorate decorations))
    | .receiver found =>
      if received then forbid .secondReceiver
      else if !isFirst then forbid .lateReceiver
      else go true (found.decorate decorations)
    | .typed found => go received (found.decorate decorations)

/-- All of a function up to its body. -/
structure Signature where
  lead : String
  generics : List Phrase
  parameters : List Phrase
  more : Option Phrase
  output : Option Phrase
  predicates : List Phrase
  /-- Whether it is called safe. -/
  safe : Bool

/-- The signature of a function. -/
def signature (nested : Nested) (mayBeSafe : Bool) : Parse Signature := do
  let constness ← optionalWord "const"
  let suspension ← optionalWord "async"
  let safe ← if mayBeSafe then acceptWord "safe" else pure false
  let safety ← if safe then pure "" else optionalWord "unsafe"
  let linkage ← linkage
  requireWord "fn"
  let name ← name
  let generics ← generics nested
  let (parameters, more) ← inGroup .round (parameters nested false true nested.steps)
  let output ← output nested true
  let predicates ← whereClause nested
  return {
    lead := constness ++ suspension ++ safety ++ linkage ++ "fn " ++ name
    generics := generics.getD []
    parameters
    more
    output
    predicates := predicates.getD []
    safe }

/-- The item that a signature with a body makes up. -/
def Signature.item (signature : Signature) (lead : String) (body : Option Phrase) : Phrase :=
  .functionItem (lead ++ signature.lead) signature.generics signature.parameters signature.more
    signature.output signature.predicates body

/-! ## Fields -/

/-- A field with a name.  One without may have a type of fields, which is accepted
without a layout. -/
def namedField (nested : Nested) : Nat → Parse Phrase
  | 0 => throw .outOfSteps
  | steps + 1 => do
    let decorations ← outerDecorations nested
    let visible ← visibility nested
    let isNameless ← look (atWord "_")
    let name ← if isNameless then anyWord else name
    requireMarks ":"
    let start ← get
    let isInline := isNameless &&
      (atWord "struct" start.ahead ||
        (atWord "union" start.ahead && atGroup .curly (start.ahead.drop 1)))
    let type ←
      if isInline then
        let _ ← anyWord
        let _ ← inGroup .curly (separated "," (namedField nested steps) nested.steps)
        pure (Phrase.verbatim .type (← sourceSince start))
      else nested.type true
    return (Phrase.fieldItem (visible ++ name ++ ": ") type).decorate decorations

/-- Fields with names, in curly brackets. -/
def namedFields (nested : Nested) : Parse (List Phrase) :=
  inGroup .curly (separated "," (namedField nested nested.steps) nested.steps)

/-- A field by its position. -/
def positionalField (nested : Nested) : Parse Phrase := do
  let decorations ← outerDecorations nested
  let visible ← visibility nested
  return (Phrase.fieldItem visible (← nested.type true)).decorate decorations

/-- Fields by their positions, in parentheses. -/
def positionalFields (nested : Nested) : Parse (List Phrase) :=
  inGroup .round (separated "," (positionalField nested) nested.steps)

end RecordDerive.Grammar.Parse
