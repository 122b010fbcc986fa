import RecordDerive.Text.GraphemeExtend
import RecordDerive.Text.Unprintable

/-!
# Quoted text

Inside double quotes, a quote and a backslash stand behind a backslash, and so
do the letters for tab, line feed, carriage return and the null character.
Characters that would not be seen, or would be drawn onto the one before them, are
given by number.  A null character before an octal digit is given by number as
well, since the two together would read as an escape of their own.
-/

namespace RecordDerive.Text

/-- The number of a character in lower-case hexadecimal, in an escape. -/
def numberEscape (c : Char) : String :=
  "\\u\x7b" ++ String.ofList (Nat.toDigits 16 c.toNat) ++ "\x7d"

/-- Whether a character is an octal digit. -/
def isOctal (c : Char) : Bool :=
  '0' ≤ c && c ≤ '7'

/-- The letters that extend the one before them and still are drawn on their
own: the halfwidth marks of voiced sounds. -/
def drawnAlone : List (Nat × Nat) := [(0xFF9E, 0xFF9F)]

/-- The letters that fill a place and are not drawn. -/
def fillers : List (Nat × Nat) :=
  [(0x115F, 0x1160), (0x3164, 0x3164), (0xFFA0, 0xFFA0)]

/-- Whether a character cannot be told by its looks from others, or from none. -/
def isHidden (c : Char) : Bool :=
  isUnprintable c || (extendsGrapheme c && !inRanges drawnAlone c) || inRanges fillers c

/-- A character other than the null character, as it stands between quotes. -/
def escapeChar (c : Char) : String :=
  if c = '\t' then "\\t"
  else if c = '\n' then "\\n"
  else if c = '\r' then "\\r"
  else if c = '"' then "\\\""
  else if c = '\\' then "\\\\"
  else if isHidden c then numberEscape c
  else String.singleton c

/-- Text as it stands between quotes. -/
def escape : List Char → String
  | [] => ""
  | '\x00' :: next :: rest =>
    (if isOctal next then "\\x00" else "\\0") ++ escape (next :: rest)
  | ['\x00'] => "\\0"
  | first :: rest => escapeChar first ++ escape rest

/-- Text in double quotes. -/
def quote (text : String) : String :=
  "\"" ++ escape text.toList ++ "\""

end RecordDerive.Text
