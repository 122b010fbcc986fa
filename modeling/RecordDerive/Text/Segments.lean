/-!
# Segmented names

Names are written as segments separated by `::`.  Splitting reads separators
from the left, as far as they do not overlap; `splitLast` takes the rightmost
one.
-/

namespace RecordDerive.Text

/-- The separator between segments. -/
def separator : String := "::"

/-- The pieces of a text between separators, at least one. -/
def pieces : List Char → List (List Char)
  | [] => [[]]
  | ':' :: ':' :: rest => [] :: pieces rest
  | first :: rest =>
    match pieces rest with
    | [] => [[first]]
    | piece :: others => (first :: piece) :: others

/-- The segments of a name: its pieces that are not empty. -/
def segments (name : String) : List String :=
  ((pieces name.toList).filter fun piece => !piece.isEmpty).map String.ofList

/-- Texts with separators between them. -/
def join : List String → String
  | [] => ""
  | [only] => only
  | first :: rest => first ++ separator ++ join rest

/-- The text before the first separator of a reversed name and the text after
it, both turned forward again; `after` holds what was passed already. -/
def splitReversed (after : List Char) : List Char → Option (List Char × List Char)
  | [] => none
  | ':' :: ':' :: rest => some (rest.reverse, after)
  | first :: rest => splitReversed (first :: after) rest

/-- A name cut at its rightmost separator. -/
def splitLast (name : String) : Option (String × String) :=
  (splitReversed [] name.toList.reverse).map fun halves =>
    (String.ofList halves.1, String.ofList halves.2)

/-- The text after the rightmost separator, or the whole name. -/
def lastSegment (name : String) : String :=
  match splitLast name with
  | some (_, last) => last
  | none => name

/-- A name inside a package; nothing is put before a name outside packages. -/
def qualify (package name : String) : String :=
  if package.isEmpty then name else package ++ separator ++ name

end RecordDerive.Text
