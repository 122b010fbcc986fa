import RecordDerive.Grammar.Fault

/-!
# Reading phrases from tokens

A reading consumes tokens from the front of a sequence.  Tokens left over in a
group do not stop it, since a later refusal takes precedence; the first group
with such tokens is remembered and reported at the end.

A reading also keeps the tokens it consumed in the form in which they are
spelled again: marks that make up one operator stay together and no others do.
-/

namespace RecordDerive.Grammar

/-- The tokens ahead, the first group read that had tokens left over, and the
tokens consumed, the latest first. -/
structure Cursor where
  ahead : List Token
  leftOver : Option Bracket
  spelled : List Token
  deriving Inhabited

/-- A reading of tokens. -/
abbrev Parse := StateT Cursor (Except Fault)

/-! ## What stands ahead -/

/-- The tokens after an operator, if they begin with its marks, each joined to
the next. -/
def afterMarks : List Char → List Token → Option (List Token)
  | [], tokens => some tokens
  | [last], .mark found _ :: rest => if found = last then some rest else none
  | first :: more, .mark found true :: rest => if found = first then afterMarks more rest else none
  | _, _ => none

/-- Whether an operator stands at the front. -/
def atMarks (operator : String) (tokens : List Token) : Bool :=
  (afterMarks operator.toList tokens).isSome

/-- Whether a word stands at the front. -/
def atWord (expected : String) : List Token → Bool
  | .word found :: _ => found == expected
  | _ => false

/-- Whether any word stands at the front. -/
def atAnyWord : List Token → Bool
  | .word _ :: _ => true
  | _ => false

/-- Whether one of some words stands at the front. -/
def atOneOf (expected : List String) : List Token → Bool
  | .word found :: _ => expected.contains found
  | _ => false

/-- Whether a group stands at the front. -/
def atGroup (bracket : Bracket) : List Token → Bool
  | .group found _ :: _ => found = bracket
  | _ => false

/-- Whether any group stands at the front. -/
def atAnyGroup : List Token → Bool
  | .group .. :: _ => true
  | _ => false

/-- Whether a lifetime stands at the front. -/
def atLifetime : List Token → Bool
  | .mark '\'' true :: .word _ :: _ => true
  | _ => false

/-- The tokens after the first, where a lifetime counts as one. -/
def afterOne : List Token → List Token
  | .mark '\'' true :: .word _ :: rest => rest
  | _ :: rest => rest
  | [] => []

/-- The words that are not names. -/
def keywords : List String :=
  ["_", "abstract", "as", "async", "await", "become", "box", "break", "const", "continue", "crate",
    "do", "dyn", "else", "enum", "extern", "false", "final", "fn", "for", "if", "impl", "in", "let",
    "loop", "macro", "match", "mod", "move", "mut", "override", "priv", "pub", "ref", "return",
    "Self", "self", "static", "struct", "super", "trait", "true", "try", "type", "typeof", "unsafe",
    "unsized", "use", "virtual", "where", "while", "yield"]

/-- Whether a name stands at the front. -/
def atName : List Token → Bool
  | .word found :: _ => !keywords.contains found
  | _ => false

/-- Whether a text begins with a digit. -/
def isNumber (text : String) : Bool :=
  text.toList.head?.any Char.isDigit

/-- Whether a literal stands at the front; truth values are literals, and a
minus sign belongs to the number after it. -/
def atLiteral : List Token → Bool
  | .literal _ :: _ => true
  | .word found :: _ => found == "true" || found == "false"
  | .mark '-' _ :: .literal text :: _ => isNumber text
  | _ => false

/-- Whether a string stands at the front, raw or not. -/
def atText : List Token → Bool
  | .literal text :: _ => text.toList.head?.any fun first => first = '"' || first = 'r'
  | _ => false

/-! ## What is spelled again -/

/-- The tokens of an operator. -/
def operatorTokens : List Char → List Token
  | [] => []
  | [last] => [.mark last false]
  | first :: rest => .mark first true :: operatorTokens rest

namespace Parse

/-! ## Steps of a reading -/

/-- The tokens ahead. -/
def ahead : Parse (List Token) := do
  return (← get).ahead

/-- Refuse what stands ahead, since one of some things was expected. -/
def refuse {α : Type} (what : List String) : Parse α := do
  throw (.expected (← ahead).isEmpty what)

/-- Refuse a form where it stands. -/
def forbid {α : Type} (form : Misplaced) : Parse α :=
  throw (.misplaced form)

/-- Keep tokens as consumed. -/
def spell (tokens : List Token) : Parse Unit :=
  modify fun cursor => { cursor with spelled := tokens.reverse ++ cursor.spelled }

/-- Go on at the given tokens, after tokens that are spelled as given. -/
def advance (rest spelling : List Token) : Parse Unit := do
  modify fun cursor => { cursor with ahead := rest }
  spell spelling

/-- Whether what stands ahead has a property. -/
def look (property : List Token → Bool) : Parse Bool := do
  return property (← ahead)

/-- Whether nothing stands ahead. -/
def atEnd : Parse Bool := look (·.isEmpty)

/-- The result of a reading, or nothing consumed if it is refused. -/
def attempt {α : Type} (reading : Parse α) : Parse (Option α) := fun cursor =>
  match reading cursor with
  | .ok (value, after) => .ok (some value, after)
  | .error _ => .ok (none, cursor)

/-- Consume an operator without keeping it, if it stands ahead. -/
def skipMarks (operator : String) : Parse Bool := do
  match afterMarks operator.toList (← ahead) with
  | some rest => advance rest []; return true
  | none => return false

/-- Consume an operator, if it stands ahead. -/
def acceptMarks (operator : String) : Parse Bool := do
  if ← skipMarks operator then
    spell (operatorTokens operator.toList)
    return true
  else return false

/-- Consume an operator. -/
def requireMarks (operator : String) : Parse Unit := do
  unless ← acceptMarks operator do
    throw (.missingMark operator)

/-- Consume a keyword, if it stands ahead. -/
def acceptWord (expected : String) : Parse Bool := do
  match ← ahead with
  | .word found :: rest =>
    if found == expected then
      advance rest [.word found]
      return true
    else return false
  | _ => return false

/-- Consume a keyword. -/
def requireWord (expected : String) : Parse Unit := do
  unless ← acceptWord expected do
    refuse ["`" ++ expected ++ "`"]

/-- The keyword with a blank after it, if it stands ahead, and else nothing. -/
def optionalWord (expected : String) : Parse String := do
  return if ← acceptWord expected then expected ++ " " else ""

/-- Consume a lifetime, if one stands ahead. -/
def acceptLifetime : Parse (Option String) := do
  match ← ahead with
  | .mark '\'' true :: .word name :: rest =>
    advance rest [.mark '\'' true, .word name]
    return some ("'" ++ name)
  | _ => return none

/-- Consume a lifetime. -/
def requireLifetime : Parse String := do
  match ← acceptLifetime with
  | some name => return name
  | none => refuse ["lifetime"]

/-- Consume any word. -/
def anyWord : Parse String := do
  match ← ahead with
  | .word found :: rest => advance rest [.word found]; return found
  | _ => refuse ["identifier"]

/-- Consume a name. -/
def name : Parse String := do
  match ← ahead with
  | .word found :: rest =>
    if keywords.contains found then throw (.keywordAsName found)
    else
      advance rest [.word found]
      return found
  | _ => refuse ["identifier"]

/-- Consume a literal. -/
def literal : Parse String := do
  match ← ahead with
  | .literal text :: rest => advance rest [.literal text]; return text
  | .word text :: rest =>
    if text == "true" || text == "false" then
      advance rest [.word text]
      return text
    else refuse ["literal"]
  | .mark '-' _ :: .literal text :: rest =>
    advance rest [.mark '-' false, .literal text]
    return "-" ++ text
  | _ => refuse ["literal"]

/-- Consume a group with all of its tokens. -/
def anyGroup (what : String) : Parse (Bracket × List Token) := do
  match ← ahead with
  | .group bracket tokens :: rest =>
    advance rest [.group bracket tokens]
    return (bracket, tokens)
  | _ => refuse [what]

/-- How a group is called where it is expected. -/
def groupName : Bracket → String
  | .round => "parentheses"
  | .square => "square brackets"
  | .curly => "curly braces"

/-- Read the tokens of a group.  Those that are left over are remembered. -/
def inGroup {α : Type} (bracket : Bracket) (inner : Parse α) : Parse α := do
  match ← ahead with
  | .group found inside :: rest =>
    if found = bracket then
      let before := (← get).spelled
      modify fun cursor => { cursor with ahead := inside, spelled := [] }
      let value ← inner
      modify fun cursor =>
        ⟨rest, cursor.leftOver <|> if cursor.ahead.isEmpty then none else some bracket,
          .group bracket cursor.spelled.reverse :: before⟩
      return value
    else refuse [groupName bracket]
  | _ => refuse [groupName bracket]

/-- The result of a reading with the tokens it consumed, which are not kept. -/
def apart {α : Type} (reading : Parse α) : Parse (α × List Token) := do
  let before := (← get).spelled
  modify fun cursor => { cursor with spelled := [] }
  let value ← reading
  let spelling := (← get).spelled.reverse
  modify fun cursor => { cursor with spelled := before }
  return (value, spelling)

/-- The source of what was consumed since an earlier place, which is spelled
again as it stands. -/
def sourceSince (start : Cursor) : Parse (List Token) := do
  let tokens := start.ahead.take (start.ahead.length - (← ahead).length)
  modify fun cursor => { cursor with spelled := tokens.reverse ++ start.spelled }
  return tokens

/-! ## Lists -/

/-- Read items with a mark between them until no token is ahead.  The mark may
follow the last item.  `steps` bounds the number of items. -/
def separated {α : Type} (mark : String) (item : Parse α) : Nat → Parse (List α)
  | 0 => throw .outOfSteps
  | steps + 1 => do
    if ← atEnd then return []
    let first ← item
    if ← atEnd then return [first]
    requireMarks mark
    return first :: (← separated mark item steps)

/-- Read items until no token is ahead. -/
def many {α : Type} (item : Parse α) : Nat → Parse (List α)
  | 0 => throw .outOfSteps
  | steps + 1 => do
    if ← atEnd then return []
    let first ← item
    return first :: (← many item steps)

/-- Read items as long as what stands ahead has a property. -/
def manyWhile {α : Type} (property : List Token → Bool) (item : Parse α) : Nat → Parse (List α)
  | 0 => throw .outOfSteps
  | steps + 1 => do
    if ← look property then
      let first ← item
      return first :: (← manyWhile property item steps)
    else return []

/-- Read items with plus signs between them.  They end before a token with the
given property, or where no plus sign follows an item. -/
def summed {α : Type} (isOver : List Token → Bool) (item : Parse α) : Nat → Parse (List α)
  | 0 => throw .outOfSteps
  | steps + 1 => do
    if ← look isOver then return []
    let first ← item
    if ← acceptMarks "+" then return first :: (← summed isOver item steps)
    else return [first]

/-- Read items with plus signs between them up to a token with the given
property. -/
def summedUntil {α : Type} (isOver : List Token → Bool) (item : Parse α) : Nat → Parse (List α)
  | 0 => throw .outOfSteps
  | steps + 1 => do
    if ← look isOver then return []
    let first ← item
    if ← look isOver then return [first]
    requireMarks "+"
    return first :: (← summedUntil isOver item steps)

/-- An item of a list in angle brackets. -/
structure Entry (α : Type) where
  item : α
  spelling : List Token
  /-- Whether a comma follows. -/
  followed : Bool

/-- Read items with commas between them up to a closing angle bracket, which is
not consumed.  What is consumed is not kept. -/
def entries {α : Type} (item : Parse α) : Nat → Parse (List (Entry α))
  | 0 => throw .outOfSteps
  | steps + 1 => do
    if ← look (atMarks ">") then return []
    let (first, spelling) ← apart item
    if ← look (atMarks ">") then return [⟨first, spelling, false⟩]
    unless ← skipMarks "," do throw (.missingMark ",")
    return ⟨first, spelling, true⟩ :: (← entries item steps)

/-- The spelling of entries.  A comma stands before an entry, though none stood
after the one now before it. -/
def spellEntries {α : Type} (closed : Bool) : List (Entry α) → List Token
  | [] => []
  | first :: rest =>
    (if closed then [] else [.mark ',' false]) ++ first.spelling ++
      (if first.followed then [.mark ',' false] else []) ++ spellEntries first.followed rest

/-- Read items with commas between them up to a closing angle bracket, which is
not consumed.  Those of one class come first, in the result and where they are
spelled again. -/
def sorted {α : Type} (isFirst : α → Bool) (item : Parse α) (steps : Nat) : Parse (List α) := do
  let found ← entries item steps
  let (early, late) := found.partition fun entry => isFirst entry.item
  spell (spellEntries true (early ++ late))
  return (early ++ late).map (·.item)

/-! ## Running a reading -/

/-- Read all of some tokens.  The tokens consumed are part of the result. -/
def run {α : Type} (reading : Parse α) (tokens : List Token) : Except Fault (α × List Token) := do
  let (value, cursor) ← StateT.run reading ⟨tokens, none, []⟩
  match cursor.leftOver with
  | some bracket => throw (.leftOver (some bracket))
  | none =>
    if cursor.ahead.isEmpty then return (value, cursor.spelled.reverse)
    else throw (.leftOver none)

end Parse

end RecordDerive.Grammar
