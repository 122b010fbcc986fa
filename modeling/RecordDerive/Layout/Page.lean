import RecordDerive.Layout.Doc

/-!
# Laying out documents

Documents are placed from left to right.  What a group or a break needs is its
own width and whatever follows it up to the next break of its own or an
enclosing group, since no line can end before that; nested groups count whole.
Widths are those of one line, in bytes.  Blanks are written only when text
follows them, so no line ends in blanks.
-/

namespace RecordDerive.Layout

/-- The width of a line. -/
def margin : Int := 89

/-- The room that every line has, however far it is indented. -/
def minRoom : Int := 60

/-- What has been laid out. -/
structure Page where
  text : String
  /-- Blanks owed to the next text. -/
  owed : Nat
  /-- The room left on the line. -/
  room : Int
  deriving Repr, DecidableEq

/-- How breaks are treated where a document is placed. -/
inductive Frame
  | fits
  | broken (flow : Flow)
  deriving Repr, DecidableEq

/-- Whether a break of some width keeps to the line in the room there is. -/
def Frame.keeps (frame : Frame) (width : Nat) (room : Int) : Bool :=
  match frame with
  | .fits => true
  | .broken .consistent => false
  | .broken .inconsistent => (width : Int) ≤ room

namespace Page

/-- An empty page. -/
def empty : Page := ⟨"", 0, margin⟩

/-- The page with text written to it, after the blanks owed to it. -/
def write (page : Page) (content : String) : Page where
  text := page.text ++ String.ofList (List.replicate page.owed ' ') ++ content
  owed := 0
  room := page.room - content.utf8ByteSize

/-- The page with its line ended and the next one indented. -/
def endLine (page : Page) (indent : Int) : Page where
  text := page.text ++ "\n"
  owed := indent.toNat
  room := max (margin - indent) minRoom

/-- The page with text written to it, if there is any. -/
def writeAny (page : Page) (content : String) : Page :=
  if content.isEmpty then page else page.write content

/-- The page after a break; `follow` is the width of what follows it. -/
def passBreak (page : Page) (frame : Frame) (indent : Int) (place : Break) (follow : Nat) : Page :=
  if place.never || frame.keeps (place.blank + follow) page.room then
    ({ page with owed := page.owed + place.blank, room := page.room - place.blank } : Page).writeAny
      place.kept
  else ((page.writeAny place.before).endLine (indent + place.offset)).writeAny place.after

end Page

/-- The width from the front of some documents to their first break, or through
all of them to what follows. -/
def reach : List Doc → Nat → Nat
  | [], follow => follow
  | .brk _ :: _, _ => 0
  | first :: rest, follow => first.width + reach rest follow

mutual

/-- The page after a document. -/
def Doc.place (frame : Frame) (indent : Int) (follow : Nat) : Doc → Page → Page
  | .text content, page => page.write content
  | .brk place, page => page.passBreak frame indent place follow
  | .group flow shift body, page =>
    if ((Doc.widths body + follow : Nat) : Int) > page.room then
      Doc.placeAll (.broken flow) (indent + shift) follow body page
    else Doc.placeAll .fits indent follow body page
  | .capped limit shift body last, page =>
    let isNarrow := Doc.widths body + last.blank ≤ limit
    let fits := (Doc.widths body : Int) ≤ page.room
    let last := if last.inner && (isNarrow || !fits) then { never := true } else last
    let frame : Frame :=
      if isNarrow && ((Doc.widths body + last.blank + follow : Nat) : Int) ≤ page.room then .fits
      else .broken .consistent
    let inside := match frame with | .fits => indent | .broken _ => indent + shift
    (Doc.placeAll frame inside 0 body page).passBreak frame inside last follow
  | .unprintable _, page => page

/-- The page after a sequence of documents. -/
def Doc.placeAll (frame : Frame) (indent : Int) (follow : Nat) : List Doc → Page → Page
  | [], page => page
  | first :: rest, page =>
    Doc.placeAll frame indent follow rest (first.place frame indent (reach rest follow) page)

end

/-- The text of a sequence of documents. -/
def layout (documents : List Doc) : String :=
  (Doc.placeAll (.broken .inconsistent) 0 0 documents Page.empty).text

end RecordDerive.Layout
