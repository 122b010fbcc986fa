/-!
# Documents

A document is text with places where a line may end.  Breaks belong to the group
around them.  A group that fits on the line keeps all of its breaks; one that
does not is broken: its lines are indented further, and its breaks end the line,
either all of them or only those after which the next part would not fit.
-/

namespace RecordDerive.Layout

/-- Which breaks of a broken group end the line. -/
inductive Flow
  /-- All of them. -/
  | consistent
  /-- Those before a part that does not fit. -/
  | inconsistent
  deriving Repr, DecidableEq

/-- A place where a line may end. -/
structure Break where
  /-- The blanks that stand there if the line does not end. -/
  blank : Nat := 0
  /-- How much further than its group the next line is indented. -/
  offset : Int := 0
  /-- What is put before the end of the line. -/
  before : String := ""
  /-- What is put at the front of the next line. -/
  after : String := ""
  /-- What is put there if the line does not end. -/
  kept : String := ""
  /-- Whether the line never ends here. -/
  never : Bool := false
  /-- Whether the place is left out if it ends its group. -/
  inner : Bool := false
  deriving Repr, DecidableEq

/-- A document; sequences of documents are lists. -/
inductive Doc
  | text (content : String)
  | brk (place : Break)
  | group (flow : Flow) (shift : Int) (body : List Doc)
  /-- A group that breaks everywhere if it is wider than a limit, with the place
  that ends it.  If that place is inner, it is kept only where the limit is all that
  breaks the group. -/
  | capped (limit : Nat) (shift : Int) (body : List Doc) (last : Break)
  /-- Something that has no layout. -/
  | unprintable (what : String)
  deriving Repr, Inhabited

namespace Doc

/-- A width that no line has. -/
def unboundedWidth : Nat := 65535

/-- The columns a level of nesting is indented by. -/
def indentWidth : Int := 4

/-- A blank that may end the line. -/
def space : Doc := .brk { blank := 1 }

/-- A place without blanks that may end the line. -/
def zeroBreak : Doc := .brk {}

/-- A place that always ends the line. -/
def hardBreak : Doc := .brk { blank := unboundedWidth }

/-- A place that always ends the line, unless it ends its group. -/
def innerHardBreak : Doc := .brk { blank := unboundedWidth, inner := true }

/-- A blank that may end the line, and is left out if it ends its group. -/
def innerSpace : Doc := .brk { blank := 1, inner := true }

/-- A place that never ends the line; it still ends what is measured before
it. -/
def neverBreak : Doc := .brk { never := true }

/-- The end of a group that is indented one level: its last break goes back by as
much. -/
def backBreak : Doc := .brk { offset := -indentWidth }

/-- The end of a list: where it is broken, a comma follows the last item. -/
def trailingComma : Doc := .brk { before := "," }

/-- The end of a list between blanks. -/
def spacedComma : Doc := .brk { blank := 1, before := "," }

/-- Documents whose last break goes back one level. -/
def dedented : List Doc → List Doc
  | [] => []
  | [.brk place] => [.brk { place with offset := place.offset - indentWidth }]
  | first :: rest => first :: dedented rest

/-- Documents whose last break is replaced if it is left out where it ends a
group; its place still ends what is measured before it. -/
def withoutLastInner : List Doc → List Doc
  | [] => []
  | [.brk place] => if place.inner then [neverBreak] else [.brk place]
  | first :: rest => first :: withoutLastInner rest

/-- A group, or nothing if it holds at most one break. -/
def grouped (flow : Flow) (shift : Int) (body : List Doc) : List Doc :=
  match body with
  | [] => []
  | [.brk _] => []
  | body => [.group flow shift (withoutLastInner body)]

/-- A group that breaks only where it has to. -/
def filled (shift : Int) (body : List Doc) : List Doc := grouped .inconsistent shift body

/-- A group that breaks everywhere or nowhere. -/
def uniform (shift : Int) (body : List Doc) : List Doc := grouped .consistent shift body

/-! ## Lists -/

/-- Items with documents between them. -/
def interspersed (between : List Doc) : List (List Doc) → List Doc
  | [] => []
  | [only] => only
  | first :: rest => first ++ between ++ interspersed between rest

/-- Items with a comma and a break between them, and an end of their own. -/
def separated (finish : Doc) (items : List (List Doc)) : List Doc :=
  if items.isEmpty then [] else interspersed [.text ",", space] items ++ [finish]

/-- Items with a comma and a break between them, and a trailing comma. -/
def commaList (items : List (List Doc)) : List Doc := separated trailingComma items

/-- A list in brackets, with nothing between them if it is empty. -/
def enclosed (opening : String) (items : List (List Doc)) (closing : String) : List Doc :=
  [.text opening] ++ uniform indentWidth (dedented (zeroBreak :: commaList items)) ++
    [.text closing]

/-- The elements of a tuple in parentheses.  A single one is followed by a comma
on any line. -/
def tuple (items : List (List Doc)) : List Doc :=
  match items with
  | [only] =>
    [.text "("] ++ uniform indentWidth (zeroBreak :: only ++ [.text ",", backBreak]) ++ [.text ")"]
  | items => enclosed "(" items ")"

mutual

/-- The width of a document on one line, in bytes of its text. -/
def width : Doc → Nat
  | .text content => content.utf8ByteSize
  | .brk place => place.blank
  | .group _ _ body => widths body
  | .capped limit _ body last =>
    if widths body + last.blank > limit then unboundedWidth
    else widths body + (if last.inner then 0 else last.blank)
  | .unprintable _ => 0

/-- The width of a sequence of documents on one line. -/
def widths : List Doc → Nat
  | [] => 0
  | first :: rest => first.width + widths rest

end

mutual

/-- The first part of a document that has no layout. -/
def firstUnprintable : Doc → Option String
  | .unprintable what => some what
  | .group _ _ body | .capped _ _ body _ => firstUnprintableIn body
  | .text _ | .brk _ => none

/-- The first part of a sequence of documents that has no layout. -/
def firstUnprintableIn : List Doc → Option String
  | [] => none
  | first :: rest => first.firstUnprintable <|> firstUnprintableIn rest

end

/-! ## Records -/

/-- The most columns a record takes on one line. -/
def recordWidth : Nat := 34

/-- A record with the fields of some path, the last with the break that ends
them.  One that is too wide for a record takes several lines, however much room
there is. -/
def record (path fields : List Doc) : List Doc :=
  let lead := filled (-indentWidth) path ++ [.text " \x7b"]
  let inner : Break := { blank := 1, inner := true }
  let (body, last) : List Doc × Break :=
    match fields.getLast? with
    | some (.brk last) => (lead ++ .brk inner :: fields.dropLast, last)
    | _ => (lead ++ fields, inner)
  [.capped recordWidth indentWidth body { last with offset := last.offset - indentWidth },
    .text "\x7d"]

end Doc

end RecordDerive.Layout
