import RecordDerive.Code.Fault
import RecordDerive.Declaration.Basic
import RecordDerive.Grammar.Cursor
import RecordDerive.Text.Alphabetic
import RecordDerive.Text.IdentifierContinue
import RecordDerive.Text.IdentifierStart
import RecordDerive.Text.Numeric

/-!
# Members

A field is accessed by its position if it is named by one, and otherwise by its
name.  A name that is a keyword is marked as raw; a few keywords cannot be.  The
characters that names may consist of are wider than those of identifiers, and a
name that only passes the wider test aborts.
-/

namespace RecordDerive.Code

/-- What is written after a point to access a field. -/
inductive Member
  | named (name : String)
  | position (index : UInt32)
  deriving Repr, DecidableEq

/-- The text of a member. -/
def Member.text : Member → String
  | .named name => name
  | .position index => toString index.toNat

/-- Whether a character may stand in a name. -/
def isNameCharacter (c : Char) : Bool :=
  c = '_' || Text.isAlphabetic c || Text.isNumeric c

/-- Whether a text is a letter or underscore followed by letters, numerals and
underscores. -/
def isName (text : String) : Bool :=
  match text.toList with
  | [] => false
  | first :: rest => (first = '_' || Text.isAlphabetic first) && rest.all isNameCharacter

/-- Whether a text is an identifier, keywords included. -/
def isIdentifier (text : String) : Bool :=
  match text.toList with
  | [] => false
  | first :: rest => Text.isIdentifierStart first && rest.all Text.isIdentifierContinue

/-- The keywords that cannot be marked as raw. -/
def reservedNames : List String := ["_", "self", "Self", "super", "crate"]

/-- The identifier for the name of a field. -/
def fieldIdentifier (name : String) : Except (Stop MemberFault) String :=
  if !isName name then .error (.failed (.notName name))
  else if !isIdentifier name then .error (.aborted (.notIdentifier name))
  else if !Grammar.keywords.contains name then .ok name
  else if reservedNames.contains name then .error (.failed (.reserved name))
  else .ok ("r#" ++ name)

/-- The number that decimal digits spell. -/
def ofDigits (digits : List Char) : Nat :=
  digits.foldl (fun number digit => number * 10 + (digit.toNat - '0'.toNat)) 0

/-- The member for a field. -/
def memberOf (field : Field) : Except (Stop MemberFault) Member :=
  if field.isPositional then
    let position := ofDigits field.name.toList
    if position < UInt32.size then .ok (.position (UInt32.ofNat position))
    else .error (.failed (.positionTooLarge field.name))
  else (fieldIdentifier field.name).map .named

end RecordDerive.Code
