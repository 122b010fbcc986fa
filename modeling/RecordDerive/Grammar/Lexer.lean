import RecordDerive.Grammar.Token
import RecordDerive.Text.Escape
import RecordDerive.Text.IdentifierContinue
import RecordDerive.Text.IdentifierStart

/-!
# Reading tokens

Scanners take the characters ahead and return those left after what they
recognise, or nothing.  Blanks and comments separate tokens; a documentation
comment stands for an attribute.  Brackets must match.  A text that cannot be
divided into tokens is refused as a whole, whatever the cause.
-/

namespace RecordDerive.Grammar.Lexer

open RecordDerive.Text

/-- A scanner returns the characters after what it recognises. -/
abbrev Scanner := List Char → Option (List Char)

/-- The characters that a scanner consumed. -/
def consumed (before after : List Char) : String :=
  String.ofList (before.take (before.length - after.length))

/-- Whether a text begins with a word. -/
def starts (word : String) (input : List Char) : Bool :=
  word.toList.isPrefixOf input

/-! ## Blanks and comments -/

/-- Whether a character separates tokens. -/
def isBlank (c : Char) : Bool :=
  c = ' ' || (9 ≤ c.toNat && c.toNat ≤ 13) || c.toNat = 0x85 || c.toNat = 0xA0 ||
    c.toNat = 0x1680 || (0x2000 ≤ c.toNat && c.toNat ≤ 0x200A) || c.toNat = 0x200E ||
    c.toNat = 0x200F || c.toNat = 0x2028 || c.toNat = 0x2029 || c.toNat = 0x202F ||
    c.toNat = 0x205F || c.toNat = 0x3000

/-- The line feed, or the end, that a line runs up to; a carriage return before
the line feed belongs to the line's end. -/
def lineEnd : List Char → List Char
  | [] => []
  | '\n' :: rest => '\n' :: rest
  | '\r' :: '\n' :: rest => '\r' :: '\n' :: rest
  | _ :: rest => lineEnd rest

/-- A block comment with `depth` of its openings passed; openings nest. -/
def blockComment : Nat → Scanner
  | _, [] => none
  | depth, '/' :: '*' :: rest => blockComment (depth + 1) rest
  | depth, '*' :: '/' :: rest => if depth ≤ 1 then some rest else blockComment (depth - 1) rest
  | depth, _ :: rest => blockComment depth rest

/-- A comment that only separates tokens. -/
def plainComment (input : List Char) : Option (List Char) :=
  if starts "//" input then
    if (starts "///" input && !starts "////" input) || starts "//!" input then none
    else some (lineEnd input)
  else if starts "/**/" input then some (input.drop 4)
  else if starts "/*" input then
    if (starts "/**" input && !starts "/***" input) || starts "/*!" input then none
    else blockComment 0 input
  else none

/-- The input after blanks and comments, in at most `steps` of them. -/
def skipBlanks : Nat → List Char → List Char
  | 0, input => input
  | steps + 1, input =>
    match plainComment input with
    | some rest => skipBlanks steps rest
    | none =>
      match input with
      | first :: rest => if isBlank first then skipBlanks steps rest else input
      | [] => []

/-- A documentation comment. -/
structure DocComment where
  /-- Whether it documents what it stands in, and not what follows. -/
  inner : Bool
  content : String
  rest : List Char

/-- The documentation in a block comment, of which three characters open it and
two close it. -/
def docBlock (inner : Bool) (input : List Char) : Option DocComment :=
  (blockComment 0 input).map fun rest =>
    ⟨inner, String.ofList ((input.take (input.length - rest.length - 2)).drop 3), rest⟩

/-- The documentation in a line comment, which three characters open. -/
def docLine (inner : Bool) (input : List Char) : DocComment :=
  ⟨inner, consumed (input.drop 3) (lineEnd (input.drop 3)), lineEnd (input.drop 3)⟩

/-- Whether no carriage return of a text stands without its line feed. -/
def returnsPaired : List Char → Bool
  | [] => true
  | '\r' :: '\n' :: rest => returnsPaired rest
  | '\r' :: _ => false
  | _ :: rest => returnsPaired rest

/-- A documentation comment at the front of the input. -/
def docComment (input : List Char) : Option DocComment :=
  let found :=
    if starts "//!" input then some (docLine true input)
    else if starts "/*!" input then docBlock true input
    else if starts "///" input then
      if starts "////" input then none else some (docLine false input)
    else if starts "/**" input && !starts "/***" input then docBlock false input
    else none
  found.filter fun comment => returnsPaired comment.content.toList

/-- The attribute that a documentation comment stands for. -/
def DocComment.tokens (comment : DocComment) : List Token :=
  [.mark '#' false] ++ (if comment.inner then [.mark '!' false] else []) ++
    [.group .square [.word "doc", .mark '=' false, .literal (quote comment.content)]]

/-! ## Words -/

/-- An identifier without a raw mark. -/
def plainIdentifier : Scanner
  | [] => none
  | first :: rest =>
    if isIdentifierStart first then some (rest.dropWhile isIdentifierContinue) else none

/-- The words that cannot be made identifiers by a raw mark. -/
def neverRaw : List String := ["_", "super", "self", "Self", "crate"]

/-- An identifier with or without a raw mark. -/
def identifier (input : List Char) : Option (List Char) :=
  if starts "r#" input then
    let after := input.drop 2
    match plainIdentifier after with
    | none => none
    | some rest => if neverRaw.contains (consumed after rest) then none else some rest
  else plainIdentifier input

/-- The openings of literals that an identifier must not be mistaken for. -/
def literalOpenings : List String :=
  ["r\"", "r#\"", "r##", "b\"", "b'", "br\"", "br#", "c\"", "cr\"", "cr#"]

/-- A word. -/
def word (input : List Char) : Option (List Char) :=
  if literalOpenings.any (starts · input) then none else identifier input

/-! ## Literals -/

/-- The input after the suffix of a literal, if it has one. -/
def afterSuffix (input : List Char) : List Char :=
  (plainIdentifier input).getD input

/-- A scanner whose result must not run into a word. -/
def wordBreak : Scanner
  | [] => some []
  | first :: rest => if isIdentifierContinue first then none else some (first :: rest)

/-- Whether a character is a hexadecimal digit. -/
def isHexDigit (c : Char) : Bool :=
  c.isDigit || ('a' ≤ c && c ≤ 'f') || ('A' ≤ c && c ≤ 'F')

/-- The value of a hexadecimal digit. -/
def hexValue (c : Char) : Nat :=
  if c.isDigit then c.toNat - '0'.toNat
  else if 'a' ≤ c && c ≤ 'f' then c.toNat - 'a'.toNat + 10
  else c.toNat - 'A'.toNat + 10

/-- What a quoted literal may hold. -/
inductive Content
  /-- Characters. -/
  | text
  /-- Bytes, given by ASCII characters or by number. -/
  | bytes
  /-- Characters and bytes, none of them null. -/
  | terminated
  deriving Repr, DecidableEq

/-- Whether a character may stand for itself. -/
def Content.admits : Content → Char → Bool
  | .text, _ => true
  | .bytes, c => c.toNat < 128
  | .terminated, c => c.toNat != 0

/-- Whether two characters after `x` give a character or byte. -/
def Content.admitsNumber : Content → Char → Char → Bool
  | .text, high, low => isOctal high && isHexDigit low
  | .bytes, high, low => isHexDigit high && isHexDigit low
  | .terminated, high, low =>
    isHexDigit high && isHexDigit low && !(high = '0' && low = '0')

/-- Up to six hexadecimal digits, with underscores between them, and the brace
that ends them; they must give the number of a character. -/
def numberedChar (content : Content) (value digits : Nat) : Scanner
  | [] => none
  | '\x7d' :: rest =>
    if 0 < digits && value.isValidChar && content.admits (Char.ofNat value) then some rest else none
  | '_' :: rest => if 0 < digits then numberedChar content value digits rest else none
  | digit :: rest =>
    if digits < 6 && isHexDigit digit then
      numberedChar content (value * 16 + hexValue digit) (digits + 1) rest
    else none

/-- The part of an escape after its backslash. -/
def escapeTail (content : Content) : Scanner
  | 'x' :: high :: low :: rest => if content.admitsNumber high low then some rest else none
  | 'u' :: '\x7b' :: rest => if content = .bytes then none else numberedChar content 0 0 rest
  | '0' :: rest => if content = .terminated then none else some rest
  | first :: rest => if ['n', 'r', 't', '\\', '\'', '"'].contains first then some rest else none
  | [] => none

/-- Whether a character is passed over after the end of a line behind a
backslash. -/
def isContinuationBlank (c : Char) : Bool :=
  c = ' ' || c = '\t' || c = '\n' || c = '\r'

/-- The text after a line's end behind a backslash and the blanks that follow.
A carriage return among them needs its line feed. -/
def continuation : Scanner
  | [] => none
  | '\r' :: '\n' :: rest => continuation rest
  | first :: rest =>
    if first = '\r' then none
    else if isContinuationBlank first then continuation rest
    else some (first :: rest)

/-- A string up to its closing quote, in at most `steps` characters and
escapes. -/
def cookedString (content : Content) : Nat → Scanner
  | 0, _ => none
  | _ + 1, [] => none
  | _ + 1, '"' :: rest => some (afterSuffix rest)
  | steps + 1, '\r' :: '\n' :: rest => cookedString content steps rest
  | _ + 1, '\r' :: _ => none
  | steps + 1, '\\' :: '\n' :: rest => (continuation rest).bind (cookedString content steps)
  | steps + 1, '\\' :: '\r' :: rest =>
    (continuation ('\r' :: rest)).bind (cookedString content steps)
  | steps + 1, '\\' :: rest => (escapeTail content rest).bind (cookedString content steps)
  | steps + 1, first :: rest =>
    if content.admits first then cookedString content steps rest else none

/-- The end of a raw string: a quote and as many marks as opened it. -/
def rawEnd (content : Content) (marks : List Char) : Scanner
  | [] => none
  | '\r' :: '\n' :: rest => rawEnd content marks rest
  | first :: rest =>
    if first = '"' && marks.isPrefixOf rest then some (rest.drop marks.length)
    else if first = '\r' || !content.admits first then none
    else rawEnd content marks rest

/-- The most marks that open a raw string. -/
def mostRawMarks : Nat := 255

/-- A raw string after its letter. -/
def rawString (content : Content) (input : List Char) : Option (List Char) :=
  let marks := input.takeWhile (· = '#')
  match input.drop marks.length with
  | '"' :: rest =>
    if marks.length ≤ mostRawMarks then (rawEnd content marks rest).map afterSuffix else none
  | _ => none

/-- A character or byte after its opening quote. -/
def quotedChar (content : Content) (input : List Char) : Option (List Char) :=
  let after :=
    match input with
    | [] => none
    | '\\' :: rest => escapeTail content rest
    | first :: rest => if content.admits first then some rest else none
  after.bind fun
    | '\'' :: rest => some (afterSuffix rest)
    | _ => none

/-- A string, byte string, byte or character. -/
def quoted (input : List Char) : Option (List Char) :=
  match input with
  | '"' :: rest => cookedString .text input.length rest
  | 'r' :: rest => rawString .text rest
  | 'b' :: '"' :: rest => cookedString .bytes input.length rest
  | 'b' :: 'r' :: rest => rawString .bytes rest
  | 'c' :: '"' :: rest => cookedString .terminated input.length rest
  | 'c' :: 'r' :: rest => rawString .terminated rest
  | 'b' :: '\'' :: rest => quotedChar .bytes rest
  | '\'' :: rest => quotedChar .text rest
  | _ => none

/-- Digits and underscores. -/
def isDigitOrGap (c : Char) : Bool :=
  c.isDigit || c = '_'

/-- The digits of an exponent, with a sign before the first of them. -/
def exponent (input : List Char) : Option (List Char) :=
  let unsigned :=
    match input.dropWhile (· = '_') with
    | '+' :: rest => rest
    | '-' :: rest => rest
    | rest => rest
  let digits := unsigned.takeWhile isDigitOrGap
  if digits.any Char.isDigit then some (unsigned.drop digits.length) else none

/-- A number with a point, an exponent or both.  A point belongs to the number
unless a second point or a word follows it; an exponent without digits does not,
and then only a number with a point remains. -/
def floatDigits (input : List Char) : Option (List Char) :=
  match input with
  | [] => none
  | first :: _ =>
    if !first.isDigit then none
    else
      match input.dropWhile isDigitOrGap with
      | '.' :: rest =>
        let runsOn :=
          match rest with
          | [] => false
          | next :: _ => next = '.' || isIdentifierStart next
        if runsOn then none
        else
          match rest.dropWhile isDigitOrGap with
          | letter :: tail =>
            if letter = 'e' || letter = 'E' then some ((exponent tail).getD (letter :: tail))
            else some (letter :: tail)
          | [] => some []
      | letter :: tail => if letter = 'e' || letter = 'E' then exponent tail else none
      | [] => none

/-- The input after a word that follows directly. -/
def afterAttachedWord : Scanner
  | [] => some []
  | first :: rest =>
    if isIdentifierStart first then plainIdentifier (first :: rest) else some (first :: rest)

/-- A number with a point or exponent, and its suffix. -/
def float (input : List Char) : Option (List Char) :=
  (floatDigits input).bind afterAttachedWord |>.bind wordBreak

/-- The value of a character as a digit, letters counting on from ten. -/
def digitValue (c : Char) : Option Nat :=
  if isHexDigit c then some (hexValue c) else none

/-- Digits of a base, with underscores among them.  A decimal digit too large
for the base is refused; a letter too large ends the number. -/
def baseDigits (base : Nat) (isEmpty : Bool) : Scanner
  | [] => if isEmpty then none else some []
  | '_' :: rest =>
    if isEmpty && base = 10 then none else baseDigits base isEmpty rest
  | first :: rest =>
    match digitValue first with
    | some value =>
      if value < base then baseDigits base false rest
      else if first.isDigit then none
      else if isEmpty then none
      else some (first :: rest)
    | none => if isEmpty then none else some (first :: rest)

/-- A whole number without its suffix. -/
def integerDigits (input : List Char) : Option (List Char) :=
  match input with
  | '0' :: 'x' :: rest => baseDigits 16 true rest
  | '0' :: 'o' :: rest => baseDigits 8 true rest
  | '0' :: 'b' :: rest => baseDigits 2 true rest
  | _ => baseDigits 10 true input

/-- A whole number with its suffix. -/
def integer (input : List Char) : Option (List Char) :=
  (integerDigits input).bind afterAttachedWord |>.bind wordBreak

/-- A literal. -/
def literal (input : List Char) : Option (List Char) :=
  quoted input <|> float input <|> integer input

/-! ## Marks -/

/-- The characters that are marks. -/
def markCharacters : List Char := "~!@#$%^&*-=+|;:,<.>/?'".toList

/-- Whether a mark stands at the front; the slash of a comment is none. -/
def atMark : List Char → Bool
  | [] => false
  | first :: rest =>
    markCharacters.contains first && !starts "//" (first :: rest) && !starts "/*" (first :: rest)

/-- Whether a quote opens the name of a lifetime. -/
def opensLifetime (rest : List Char) : Bool :=
  match identifier rest with
  | none => false
  | some after =>
    !(starts "'" after) && !(starts "#" after && !starts "r#" rest)

/-- A mark with the input after it. -/
def mark (input : List Char) : Option (Token × List Char) :=
  match input with
  | [] => none
  | first :: rest =>
    if !atMark input then none
    else if first = '\'' then
      if opensLifetime rest then some (.mark first true, rest) else none
    else some (.mark first (atMark rest), rest)

/-! ## Tokens -/

/-- A token that is no group, with the input after it. -/
def leaf (input : List Char) : Option (Token × List Char) :=
  match literal input with
  | some rest => some (.literal (consumed input rest), rest)
  | none =>
    match mark input with
    | some found => some found
    | none => (word input).map fun rest => (.word (consumed input rest), rest)

/-- What a text is first divided into. -/
inductive Lexeme
  | opening (bracket : Bracket)
  | closing (bracket : Bracket)
  | leaf (token : Token)

/-- The bracket that a character opens. -/
def opens : Char → Option Bracket
  | '(' => some .round
  | '[' => some .square
  | '\x7b' => some .curly
  | _ => none

/-- The bracket that a character closes. -/
def closes : Char → Option Bracket
  | ')' => some .round
  | ']' => some .square
  | '\x7d' => some .curly
  | _ => none

/-- The lexemes at the front of an input without blanks there, and the input
after them. -/
def lexeme (input : List Char) : Option (List Lexeme × List Char) :=
  match docComment input with
  | some comment =>
    some ([.leaf (.mark '#' false)] ++ (if comment.inner then [.leaf (.mark '!' false)] else []) ++
      [.opening .square, .leaf (.word "doc"), .leaf (.mark '=' false),
        .leaf (.literal (quote comment.content)), .closing .square], comment.rest)
  | none =>
    match input with
    | [] => none
    | first :: rest =>
      if starts brokenLiteral input then
        some ([.leaf (.literal brokenLiteral)], input.drop brokenLiteral.length)
      else match opens first, closes first with
      | some bracket, _ => some ([.opening bracket], rest)
      | none, some bracket => some ([.closing bracket], rest)
      | none, none => (leaf input).map fun (token, rest) => ([.leaf token], rest)

/-- The lexemes of a text, in at most `steps` steps. -/
def lexemes : Nat → List Char → Option (List Lexeme)
  | 0, _ => none
  | steps + 1, input =>
    match skipBlanks input.length input with
    | [] => some []
    | first :: rest => do
      let (found, after) ← lexeme (first :: rest)
      return found ++ (← lexemes steps after)

/-- The tokens that lexemes make up.  `enclosing` holds the open brackets with
the tokens before each, and `before` the tokens since the last of them, both
innermost and latest first. -/
def nest : List (Bracket × List Token) → List Token → List Lexeme → Option (List Token)
  | [], before, [] => some before.reverse
  | _ :: _, _, [] => none
  | enclosing, before, .leaf token :: rest => nest enclosing (token :: before) rest
  | enclosing, before, .opening bracket :: rest => nest ((bracket, before) :: enclosing) [] rest
  | [], _, .closing _ :: _ => none
  | (bracket, outer) :: enclosing, before, .closing closed :: rest =>
    if bracket = closed then nest enclosing (.group bracket before.reverse :: outer) rest
    else none

/-- A text without the mark that may stand before its first character. -/
def withoutByteOrderMark : List Char → List Char
  | [] => []
  | first :: rest => if first.toNat = 0xFEFF then rest else first :: rest

/-- The tokens of a text, or nothing if it has none. -/
def tokens (text : String) : Option (List Token) :=
  let input := withoutByteOrderMark text.toList
  (lexemes (input.length + 1) input).bind (nest [] [])

end RecordDerive.Grammar.Lexer
