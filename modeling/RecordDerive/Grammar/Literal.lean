import RecordDerive.Grammar.Cursor
import RecordDerive.Grammar.Lexer

/-!
# What literals stand for

The content of a string literal, and the number that a literal spells where a
position is expected.
-/

namespace RecordDerive.Grammar.Literal

open Lexer

/-! ## Strings -/

/-- The character numbered by hexadecimal digits up to a brace, with the text
after the brace. -/
def numbered (value : Nat) : List Char → Char × List Char
  | [] => (Char.ofNat value, [])
  | '\x7d' :: rest => (Char.ofNat value, rest)
  | '_' :: rest => numbered value rest
  | digit :: rest => numbered (value * 16 + hexValue digit) rest

/-- The character that an escape stands for, with the text after it. -/
def escaped : List Char → Char × List Char
  | 'n' :: rest => ('\n', rest)
  | 'r' :: rest => ('\r', rest)
  | 't' :: rest => ('\t', rest)
  | '0' :: rest => ('\x00', rest)
  | 'x' :: high :: low :: rest => (Char.ofNat (hexValue high * 16 + hexValue low), rest)
  | 'u' :: '\x7b' :: rest => numbered 0 rest
  | other :: rest => (other, rest)
  | [] => ('\\', [])

/-- The content of a string up to its closing quote, in at most `steps`
characters and escapes. -/
def cookedContent : Nat → List Char → List Char
  | 0, _ => []
  | _, [] => []
  | _, '"' :: _ => []
  | steps + 1, '\\' :: '\n' :: rest => cookedContent steps (rest.dropWhile isContinuationBlank)
  | steps + 1, '\\' :: '\r' :: '\n' :: rest =>
    cookedContent steps (rest.dropWhile isContinuationBlank)
  | steps + 1, '\\' :: rest => (escaped rest).1 :: cookedContent steps (escaped rest).2
  | steps + 1, '\r' :: '\n' :: rest => '\n' :: cookedContent steps rest
  | steps + 1, first :: rest => first :: cookedContent steps rest

/-- The content of a raw string whose quotes are followed by the given marks. -/
def rawContent (marks : List Char) : List Char → List Char
  | [] => []
  | first :: rest =>
    if first = '"' && marks.isPrefixOf rest then [] else first :: rawContent marks rest

/-- The content of a string literal, raw or not. -/
def stringContent? (text : String) : Option String :=
  match text.toList with
  | '"' :: rest => some (String.ofList (cookedContent rest.length rest))
  | 'r' :: rest =>
    let marks := rest.takeWhile (· = '#')
    some (String.ofList (rawContent marks (rest.drop (marks.length + 1))))
  | _ => none

/-! ## Positions -/

/-- The number that digits of a base spell, with underscores among them, and
what follows the digits. -/
def digits (base value : Nat) : List Char → Nat × List Char
  | [] => (value, [])
  | '_' :: rest => digits base value rest
  | first :: rest =>
    match digitValue first with
    | some digit =>
      if digit < base then digits base (value * base + digit) rest else (value, first :: rest)
    | none => (value, first :: rest)

/-- Whether digits are followed by an exponent, and so are no whole number. -/
def isExponent : List Char → Bool
  | [] => false
  | letter :: rest =>
    (letter = 'e' || letter = 'E') &&
      (rest.dropWhile (· = '_')).head?.any fun c => c.isDigit || c = '+' || c = '-'

/-- Whether a literal without its sign is a whole number, perhaps with a
suffix. -/
def isWhole (text : List Char) : Bool :=
  match text with
  | '0' :: 'x' :: _ | '0' :: 'o' :: _ | '0' :: 'b' :: _ => true
  | first :: _ =>
    let (_, suffix) := digits 10 0 text
    first.isDigit && suffix.head? != some '.' && !isExponent suffix
  | [] => false

/-- Whether a literal is a number that is not whole. -/
def isFractional (text : String) : Bool :=
  isNumber text && !isWhole text.toList

/-- The position that a number spells. -/
def position (text : String) : Except BadPosition Nat :=
  let unsigned := if text.startsWith "-" then text.toList.drop 1 else text.toList
  if !isWhole unsigned then .error .notWhole
  else
    let (value, suffix) :=
      match unsigned with
      | '0' :: 'x' :: rest => digits 16 0 rest
      | '0' :: 'o' :: rest => digits 8 0 rest
      | '0' :: 'b' :: rest => digits 2 0 rest
      | other => digits 10 0 other
    if !suffix.isEmpty then .error .suffixed
    else if text.startsWith "-" then .error .negative
    else if value < UInt32.size then .ok value
    else .error .tooLarge

end RecordDerive.Grammar.Literal
