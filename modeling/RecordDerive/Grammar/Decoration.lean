import RecordDerive.Grammar.Literal
import RecordDerive.Grammar.Nested

/-!
# Decorations and blocks

Decorations stand in square brackets behind a number sign, before what they
decorate or, with an exclamation mark, at the front of its block.  Those that hold
documentation are laid out as comments where a comment can hold their text.
-/

namespace RecordDerive.Grammar.Parse

/-! ## Plain paths -/

/-- The keywords that may stand for a step of any path. -/
def pathKeywords : List String := ["super", "self", "Self", "crate"]

/-- Whether a step of a path stands at the front. -/
def atStep (tokens : List Token) : Bool :=
  atName tokens || atOneOf pathKeywords tokens

/-- The names of a path without generic arguments, after those before them. -/
def plainNames : Nat → Parse (List String)
  | 0 => throw .outOfSteps
  | steps + 1 => do
    let first ← anyWord
    if ← acceptMarks "::" then
      if ← look atStep then return first :: (← plainNames steps)
      else refuse ["path segment after `::`"]
    else return [first]

/-- Whether a plain path is rooted, and its names. -/
def plainPath (steps : Nat) : Parse (Bool × List String) := do
  let rooted ← acceptMarks "::"
  if ← look atStep then return (rooted, ← plainNames steps)
  else return (rooted, [← name])

/-- The text of a plain path. -/
def plainPathText (steps : Nat) : Parse String := do
  let (rooted, names) ← plainPath steps
  return (if rooted then "::" else "") ++ String.intercalate "::" names

/-! ## Comments -/

/-- A text without the blanks at its end. -/
def withoutEndBlanks (text : List Char) : List Char :=
  (text.reverse.dropWhile (· = ' ')).reverse

/-- The lines of a text, of which all but the last have no blanks at their
ends. -/
def withoutInnerBlanks : List Char → List Char → List Char
  | line, [] => line.reverse
  | line, '\n' :: rest => withoutEndBlanks line.reverse ++ '\n' :: withoutInnerBlanks [] rest
  | line, first :: rest => withoutInnerBlanks (first :: line) rest

/-- Whether the comments opened in a text are closed in it, and no others. -/
def commentsMatch : Nat → List Char → Bool
  | depth, '/' :: '*' :: rest => commentsMatch (depth + 1) rest
  | depth, '*' :: '/' :: rest => depth != 0 && commentsMatch (depth - 1) rest
  | depth, _ :: rest => commentsMatch depth rest
  | depth, [] => depth = 0

/-- Whether a text can stand inside a block comment. -/
def fitsBlockComment (text : List Char) : Bool :=
  commentsMatch 0 text && text.getLast? != some '/'

/-- The marks of comments of some kind. -/
structure CommentMarks where
  line : String
  block : String
  /-- The first characters that a line comment must not go on with. -/
  notInLine : List Char
  /-- The first characters that a block comment must not go on with. -/
  notInBlock : List Char

/-- The comment with some content, if one can hold it. -/
def CommentMarks.comment? (marks : CommentMarks) (content : String) : Option String :=
  let text := content.toList
  let begins (excluded : List Char) := text.head?.any excluded.contains
  if !text.contains '\n' && !begins marks.notInLine then
    some (marks.line ++ String.ofList (withoutEndBlanks text))
  else if fitsBlockComment text && !begins marks.notInBlock then
    some (marks.block ++ String.ofList (withoutInnerBlanks [] text) ++ "*/")
  else none

/-- The marks of the comments that a decoration of some name is written with. -/
def commentMarks? (inside : Bool) (name : String) : Option CommentMarks :=
  if name == "doc" then
    some (if inside then ⟨"//!", "/*!", [], []⟩ else ⟨"///", "/**", ['/'], ['*', '/']⟩)
  else if name == "comment" then some ⟨"//", "/*", [], ['*', '!']⟩
  else none

/-- A decoration with a value.  Values that are strings may make it a
comment. -/
def valueDecoration (inside : Bool) (name : String) (value : Phrase) : Phrase :=
  let comment :=
    match commentMarks? inside name, value with
    | some marks, .literal text => (Literal.stringContent? text).bind marks.comment?
    | _, _ => none
  match comment with
  | some text => .comment text
  | none => .decorationValue inside name value

/-! ## Decorations -/

/-- The value of a decoration: a literal alone, or an expression. -/
def decorationValue (nested : Nested) : Parse Phrase := do
  let tokens ← ahead
  if atLiteral tokens then
    let start ← get
    let text ← literal
    if ← atEnd then return .literal text
    set start
    nested.anyExpression
  else if atMarks "#" tokens && atGroup .square (tokens.drop 1) then
    forbid .decorationInDecoration
  else nested.anyExpression

/-- What stands between the brackets of a decoration. -/
def decorationContent (nested : Nested) (inside : Bool) : Parse Phrase := do
  let name ← if ← acceptWord "unsafe" then pure "unsafe" else plainPathText nested.steps
  let tokens ← ahead
  if atAnyGroup tokens then
    let (bracket, content) ← anyGroup "delimiter"
    return .decorationTokens inside name bracket content
  else if atAssignment tokens && !atMarks "==" tokens then
    requireMarks "="
    return valueDecoration inside name (← decorationValue nested)
  else return .decoration inside name

/-- A decoration before what it decorates. -/
def outerDecoration (nested : Nested) : Parse Phrase := do
  requireMarks "#"
  inGroup .square (decorationContent nested false)

/-- The decorations before what they decorate. -/
def outerDecorations (nested : Nested) : Parse (List Phrase) :=
  manyWhile (atMarks "#") (outerDecoration nested) nested.steps

/-- A decoration inside what it decorates. -/
def innerDecoration (nested : Nested) : Parse Phrase := do
  requireMarks "#"
  requireMarks "!"
  inGroup .square (decorationContent nested true)

/-- The decorations at the front of what they decorate. -/
def innerDecorations (nested : Nested) : Parse (List Phrase) :=
  manyWhile (fun tokens => atMarks "#" tokens && atMarks "!" (tokens.drop 1))
    (innerDecoration nested) nested.steps

/-! ## Blocks -/

/-- A block that begins with decorations of its own. -/
def decoratedBlock (nested : Nested) : Parse (List Phrase × List Phrase) :=
  inGroup .curly do
    let decorations ← innerDecorations nested
    return (decorations, ← nested.statements)

/-- The statements of a block without decorations. -/
def plainBlock (nested : Nested) : Parse (List Phrase) :=
  inGroup .curly nested.statements

/-- A block that is evaluated as it stands. -/
def blockExpression (nested : Nested) (kind : BlockKind) (label : Option String) :
    Parse Phrase := do
  let (decorations, statements) ← decoratedBlock nested
  return .block kind label decorations statements

end RecordDerive.Grammar.Parse
