import RecordDerive.Grammar.Form
import RecordDerive.Layout.Tokens

/-!
# The forms of phrases

How the parts of a phrase are put together, given the documents of each.  A block
takes several lines or, where a value stands, may keep to one; the lines of a body
each end in a break of their own, and the last of these goes back a level.
-/

namespace RecordDerive.Layout

open Grammar

/-- Where a phrase stands, as far as its layout depends on it. -/
inductive Position
  /-- Inside another phrase. -/
  | inner
  /-- At the front of a line. -/
  | lineStart
  /-- Before a link of a chain of members and calls, whose front may be that of a
  line. -/
  | link (startsLine : Bool)
  /-- As the second branch of a condition. -/
  | branch
  /-- As the block of an alternative. -/
  | arm
  /-- As the body of a function. -/
  | body
  /-- As a statement; `isOnly` tells whether it is all of a short block. -/
  | statement (isOnly isLast : Bool)
  deriving Repr, DecidableEq

/-- Whether a position may be at the front of a line. -/
def Position.startsLine : Position → Bool
  | .lineStart | .link true => true
  | _ => false

/-- Whether a link of a chain follows a position. -/
def Position.isLink : Position → Bool
  | .link _ => true
  | _ => false

/-- The position of what is called at a position. -/
def Position.callee : Position → Position
  | .link _ => .link false
  | other => other

namespace Form

/-! ## Parts -/

/-- Documents that are indented, and break everywhere or nowhere. -/
def indented (body : List Doc) : List Doc := Doc.uniform Doc.indentWidth body

/-- Documents in a group that goes back a level and breaks everywhere or
nowhere. -/
def unindented (body : List Doc) : List Doc := Doc.uniform (-Doc.indentWidth) body

/-- Documents after a text, if there are any. -/
def prefixed (lead : String) : Option (List Doc) → List Doc
  | none => []
  | some documents => .text lead :: documents

/-- Bounds, of which those after the first may go to lines of their own. -/
def bounds (lead : Doc) (items : List (List Doc)) : List Doc :=
  if items.isEmpty then [] else lead :: Doc.interspersed [Doc.space, .text "+ "] items

/-- Fields each followed by a comma and a blank, and what stands for all others
before the end. -/
def fields (items : List (List Doc)) (rest : Option (List Doc)) : List Doc :=
  match rest with
  | none => Doc.separated Doc.spacedComma items
  | some documents =>
    items.flatMap (· ++ [.text ",", Doc.space]) ++ documents ++ [Doc.space]

/-- Parameters on a line each or all on one, and what stands for further ones. -/
def parameters (items : List (List Doc)) (more : Option (List Doc)) : List Doc :=
  Doc.dedented <| Doc.zeroBreak ::
    match more with
    | none => Doc.commaList items
    | some documents =>
      items.flatMap (· ++ [.text ",", Doc.space]) ++ documents ++ [Doc.zeroBreak]

/-! ## Types -/

/-- Generic arguments in angle brackets, or nothing. -/
def angled (inExpression : Bool) (arguments : List (List Doc)) : List Doc :=
  if arguments.isEmpty then []
  else (if inExpression then [.text "::"] else []) ++ Doc.enclosed "<" arguments ">"

/-- The parameters of an application in parentheses, with its output. -/
def applied (inputs : List (List Doc)) (output : Option (List Doc)) : List Doc :=
  let body := if inputs.isEmpty then [Doc.zeroBreak] else Doc.zeroBreak :: Doc.commaList inputs
  indented ([.text "("] ++ Doc.dedented body ++ [.text ")"] ++ prefixed " -> " output)

/-- A lifetime that is introduced. -/
def lifetimeParameterText (name : String) (bounds : List String) : String :=
  if bounds.isEmpty then name else name ++ ": " ++ String.intercalate " + " bounds

/-- What stands before the target of a reference. -/
def referenceLead (region : Option String) (mutable : Bool) : String :=
  "&" ++ (match region with | some name => name ++ " " | none => "") ++
    (if mutable then "mut " else "")

/-- A condition on some type, or on a lifetime. -/
def predicate (isLifetime : Bool) (subject : List Doc) (items : List (List Doc)) : List Doc :=
  let shift := if items.length = 1 && !isLifetime then 0 else Doc.indentWidth
  subject ++ [.text ":"] ++ Doc.filled shift (bounds (.text " ") items)

/-! ## Operations -/

/-- An operator between operands, the left of which is not indented further. -/
def operation (left : List Doc) (operator : String) (right : List Doc) : List Doc :=
  Doc.filled Doc.indentWidth
    (Doc.filled (-Doc.indentWidth) left ++ [Doc.space, .text (operator ++ " ")] ++ right)

/-- What is set to a value. -/
def assignment (target value : List Doc) : List Doc :=
  Doc.filled 0 (target ++ [.text " = ", Doc.neverBreak] ++ value)

/-- The front of a chain before a link of it. -/
def chainHead (isLink : Bool) (documents : List Doc) : List Doc :=
  if isLink then documents else unindented documents

/-- What is called, has a position or may fail, given whether it is a link
itself. -/
def head (position : Position) (isLink : Bool) (documents : List Doc) : List Doc :=
  if position.isLink then chainHead isLink documents else documents

/-- A member of a value.  It may go to a line of its own, unless the value is a
short name at the front of a line. -/
def member (position : Position) (isShort : Bool) (value name : List Doc) : List Doc :=
  let staysOnLine := position.startsLine && isShort
  let body := value ++ (if staysOnLine then [] else [Doc.zeroBreak]) ++ .text "." :: name
  if position.isLink then body else indented body

/-- The arguments of a call in parentheses.  One that lies between brackets of its
own is not indented further. -/
def arguments (isEnclosed : Bool) (items : List (List Doc)) : List Doc :=
  match isEnclosed, items with
  | true, [only] => [.text "("] ++ only ++ [.text ")"]
  | _, items => Doc.enclosed "(" items ")"

/-- A list of elements; plain ones share lines. -/
def list (isPlain : Bool) (items : List (List Doc)) : List Doc :=
  if items.isEmpty then [.text "[]"]
  else if isPlain then
    indented
      ([.text "[", Doc.zeroBreak] ++ Doc.filled 0 (Doc.interspersed [.text ",", Doc.space] items) ++
        Doc.dedented [Doc.trailingComma] ++ [.text "]"])
  else Doc.enclosed "[" items "]"

/-- A body that is put in curly brackets, or else in parentheses, where it goes to
a line of its own.  `ending` follows the parentheses, and `kept` follows the body
where no brackets are put. -/
def braced (curly closed : Bool) (ending kept : String) (body : List Doc) : List Doc :=
  indented
    (.brk { before := if curly then "\x7b" else "(" } :: body ++
      [.brk {
        offset := -Doc.indentWidth
        before := if curly && closed then ";" else ""
        after := if curly then "\x7d" else ")" ++ ending
        kept }])

/-- The inputs of a closure whose body follows them. -/
def closureInputs (items : List (List Doc)) : List Doc :=
  indented
    ([.text "|"] ++
      (if items.isEmpty then [] else
        Doc.zeroBreak :: Doc.interspersed [.text ",", Doc.space] items) ++
      .text "|" :: Doc.dedented [Doc.space]) ++
    [Doc.neverBreak]

/-- The inputs and the output of a closure. -/
def closureSignature (items : List (List Doc)) (output : List Doc) : List Doc :=
  indented
    ([.text "|"] ++
      (if items.isEmpty then [] else Doc.dedented (Doc.zeroBreak :: Doc.commaList items)) ++
      [.text "|"]) ++
    [.text " -> "] ++ output ++ [.text " ", Doc.neverBreak]

/-! ## Blocks -/

/-- A block that keeps to one line where the group around it does. -/
def shortBlock (isEmpty : Bool) (body : List Doc) : List Doc :=
  if isEmpty then [.text "\x7b\x7d"]
  else [.text "\x7b"] ++ Doc.dedented (Doc.space :: body) ++ [.text "\x7d"]

/-- The lines of a body in curly brackets, of which the first is open. -/
def lines (body : List Doc) : List Doc :=
  indented (Doc.dedented (Doc.innerHardBreak :: body)) ++ [.text "\x7d"]

/-- A block on lines of its own. -/
def longBlock (body : List Doc) : List Doc :=
  [.text "\x7b", Doc.neverBreak] ++ lines body

/-- A label before what it belongs to. -/
def label : Option String → List Doc
  | none => []
  | some name => [.text (name ++ ": ")]

/-- A condition with the blank after it. -/
def condition (mayBreak : Bool) (documents : List Doc) : List Doc :=
  Doc.uniform 0 (documents ++ [if mayBreak then Doc.space else .text " "])

/-- A block that is chosen by a condition, with what is chosen otherwise, as far
as they belong to one group. -/
def branches (isEmpty : Bool) (condition consequent : List Doc)
    (alternative : Option (List Doc)) : List Doc :=
  [.text "if "] ++ unindented condition ++ shortBlock isEmpty consequent ++
    prefixed " else " alternative

/-- A block that is chosen by a condition. -/
def conditional (isEmpty : Bool) (condition consequent : List Doc) : List Doc :=
  [.text "if "] ++ unindented condition ++
    (if isEmpty then [.text "\x7b\x7d"]
    else [.text "\x7b"] ++ Doc.dedented (Doc.hardBreak :: consequent) ++ [.text "\x7d"])

/-! ## Patterns and decorations -/

/-- Patterns in parentheses.  A single one may have a comma after it. -/
def tuplePattern (comma : Bool) (items : List (List Doc)) : List Doc :=
  match items with
  | [only] =>
    [.text "("] ++
      indented (Doc.zeroBreak :: only ++ (if comma then [.text ","] else []) ++ [Doc.backBreak]) ++
      [.text ")"]
  | items => Doc.enclosed "(" items ")"

/-- What stands before the name of a decoration. -/
def decorationLead (inside : Bool) : String :=
  if inside then "#![" else "#["

/-! ## Items -/

/-- The conditions on an item before its body or end, each on a line of its own.
Without any a blank or semicolon stands there. -/
def conditions (closed : Bool) (predicates : List (List Doc)) : List Doc :=
  if predicates.isEmpty then [.text (if closed then ";" else " ")]
  else
    Doc.dedented [Doc.hardBreak] ++ [.text "where", Doc.hardBreak] ++
      if closed then Doc.interspersed [.text ",", Doc.hardBreak] predicates ++ [.text ";"]
      else Doc.dedented (predicates.flatMap (· ++ [.text ",", Doc.hardBreak]))

/-- The conditions on the definition of a type, which may share its line. -/
def sharedConditions (closed : Bool) (predicates : List (List Doc)) : List Doc :=
  if predicates.isEmpty then [.text (if closed then ";" else " ")]
  else
    Doc.dedented [Doc.space] ++ [.text "where", Doc.space] ++
      if closed then Doc.interspersed [.text ",", Doc.space] predicates ++ [.text ";"]
      else Doc.dedented (Doc.separated Doc.spacedComma predicates)

/-- The parameters of an item in angle brackets, or nothing. -/
def generics (items : List (List Doc)) : List Doc :=
  if items.isEmpty then []
  else
    [.text "<"] ++ Doc.uniform 0 (Doc.dedented (Doc.zeroBreak :: Doc.commaList items)) ++
      [.text ">"]

/-- The signature of a function after its name, up to its conditions. -/
def signature (genericItems parameterItems : List (List Doc)) (more output : Option (List Doc)) :
    List Doc :=
  generics genericItems ++ [.text "(", Doc.neverBreak] ++
    Doc.uniform 0 (parameters parameterItems more) ++ [.text ")"] ++
    unindented (prefixed " -> " output)

/-- An item with members in curly brackets, each on lines of its own. -/
def withMembers (lead members : List Doc) : List Doc :=
  indented (Doc.dedented (lead ++ [.text "\x7b", Doc.innerHardBreak] ++ members)) ++
    [.text "\x7d", Doc.hardBreak]

/-- The meaning of a type that is defined. -/
def meaning (lead : String) (documents : List Doc) : List Doc :=
  [.text lead, Doc.neverBreak] ++ Doc.filled (-Doc.indentWidth) documents

/-- The members of a group of uses.  A member that ends in a group ends its
line. -/
def useMembers : List (Bool × List Doc) → List Doc
  | [] => []
  | [(_, only)] => only
  | (endsInGroup, first) :: rest =>
    first ++ [.text ",", if endsInGroup then Doc.hardBreak else Doc.space] ++ useMembers rest

/-- A group of uses. -/
def useGroup (members : List (Bool × List Doc)) : List Doc :=
  [.text "\x7b"] ++
    indented
      (Doc.zeroBreak :: Doc.filled 0 (useMembers members) ++ Doc.dedented [Doc.trailingComma]) ++
    [.text "\x7d"]

/-- An expansion that stands as an item, perhaps under a name. -/
def expansionItem (definesExpansions : Bool) (path : List Doc) (name : Option String)
    (bracket : Bracket) (tokens : List Token) : List Doc :=
  match definesExpansions, name with
  | true, some name => rulesDocs name tokens ++ [Doc.hardBreak]
  | _, name =>
    namedExpansionDocs path name bracket tokens ++
      (if bracket = .curly then [] else [.text ";"]) ++ [Doc.hardBreak]

end Form

end RecordDerive.Layout
