/-!
# Why bytes cannot be read

A reader stops at the first fault.  Each fault is a cause; `Fault.message` gives
its wording.
-/

namespace RecordDerive.Wire

/-- The spellings of an unsigned integer that a lead byte above 250 announces.
Two of them never belong to a readable integer. -/
inductive Spelling
  | two
  | four
  | eight
  | sixteen
  | reserved
  deriving Repr, DecidableEq

/-- The number of payload bytes after the lead byte. -/
def Spelling.size : Spelling → Nat
  | .two => 2
  | .four => 4
  | .eight => 8
  | .sixteen => 16
  | .reserved => 0

/-- The word a message uses for a spelling. -/
def Spelling.word : Spelling → String
  | .two => "U16"
  | .four => "U32"
  | .eight => "U64"
  | .sixteen => "U128"
  | .reserved => "Reserved"

/-- A type whose values begin with a tag from `0` to `last`. -/
structure Tagged where
  name : String
  last : Nat
  deriving Repr, DecidableEq

/-- The causes for which reading stops. -/
inductive Fault
  /-- This many bytes of the read at hand are missing. -/
  | endOfInput (missing : Nat)
  /-- More bytes were claimed than one reading may claim. -/
  | limitExceeded
  /-- An integer is spelled wider than its type allows. -/
  | wideInteger (expected found : Spelling)
  /-- A truth value is neither zero nor one. -/
  | notBoolean (found : UInt8)
  /-- A tag lies outside its type. -/
  | unknownTag (type : Tagged) (found : Nat)
  /-- A text is not UTF-8: the length of its valid beginning, and how many bytes
  after that are malformed, or nothing if the text ends inside a character. -/
  | malformedText (validUpTo : Nat) (malformed : Option Nat)
  /-- A type reference nests deeper than a reader follows. -/
  | nestedTooDeeply
  deriving Repr, DecidableEq

/-- The wording of a fault. -/
def Fault.message : Fault → String
  | .endOfInput missing =>
      "UnexpectedEnd \x7b additional: " ++ toString missing ++ " \x7d"
  | .limitExceeded => "LimitExceeded"
  | .wideInteger expected found =>
      "InvalidIntegerType \x7b expected: " ++ expected.word ++ ", found: " ++ found.word ++ " \x7d"
  | .notBoolean found => "InvalidBooleanValue(" ++ toString found.toNat ++ ")"
  | .unknownTag type found =>
      "UnexpectedVariant \x7b type_name: \"" ++ type.name ++ "\", allowed: Range \x7b min: 0, max: " ++
        toString type.last ++ " \x7d, found: " ++ toString found ++ " \x7d"
  | .malformedText validUpTo malformed =>
      "Utf8 \x7b inner: Utf8Error \x7b valid_up_to: " ++ toString validUpTo ++ ", error_len: " ++
        (match malformed with
          | some count => "Some(" ++ toString count ++ ")"
          | none => "None") ++ " \x7d \x7d"
  | .nestedTooDeeply => "Other(\"type reference nested too deeply\")"

end RecordDerive.Wire
