/-!
# UTF-8 text as bytes

Characters are written in one to four bytes.  Reading accepts exactly the
well-formed sequences: no over-long form, no surrogate, nothing above the last
code point.  A refused text is described by the length of its well-formed
beginning and by the number of bytes after it that cannot begin a character,
or by `none` when the bytes end inside one.
-/

namespace RecordDerive.Wire.Utf8

/-- The bytes of a text. -/
def encode (characters : List Char) : List UInt8 :=
  characters.flatMap String.utf8EncodeChar

/-- Whether a byte lies between two bounds, both included. -/
def within (low high byte : UInt8) : Bool :=
  low ≤ byte && byte ≤ high

/-- Whether a byte continues a character. -/
def continues (byte : UInt8) : Bool :=
  within 0x80 0xBF byte

/-- Whether a byte may follow the first byte of a three-byte character.  The
bounds leave out over-long forms and surrogates. -/
def secondOfThree (first second : UInt8) : Bool :=
  if first == 0xE0 then within 0xA0 0xBF second
  else if first == 0xED then within 0x80 0x9F second
  else continues second

/-- Whether a byte may follow the first byte of a four-byte character.  The
bounds leave out over-long forms and numbers above the last code point. -/
def secondOfFour (first second : UInt8) : Bool :=
  if first == 0xF0 then within 0x90 0xBF second
  else if first == 0xF4 then within 0x80 0x8F second
  else continues second

/-- The character with a given lead value and continuation bytes, six bits
each. -/
def assemble (lead : Nat) (following : List UInt8) : Char :=
  Char.ofNat (following.foldl (fun code byte => code * 64 + byte.toNat % 64) lead)

/-- Where and how a text stops being well formed. -/
structure Malformed where
  validUpTo : Nat
  length : Option Nat
  deriving Repr, DecidableEq

/-- The characters of a text, read after `offset` well-formed bytes. -/
def decodeFrom (offset : Nat) : List UInt8 → Except Malformed (List Char)
  | [] => .ok []
  | first :: rest =>
    if first < 0x80 then
      (decodeFrom (offset + 1) rest).map (Char.ofNat first.toNat :: ·)
    else if within 0xC2 0xDF first then
      match rest with
      | [] => .error ⟨offset, none⟩
      | second :: rest =>
        if continues second then
          (decodeFrom (offset + 2) rest).map (assemble (first.toNat % 32) [second] :: ·)
        else .error ⟨offset, some 1⟩
    else if within 0xE0 0xEF first then
      match rest with
      | [] => .error ⟨offset, none⟩
      | second :: rest =>
        if secondOfThree first second then
          match rest with
          | [] => .error ⟨offset, none⟩
          | third :: rest =>
            if continues third then
              (decodeFrom (offset + 3) rest).map
                (assemble (first.toNat % 16) [second, third] :: ·)
            else .error ⟨offset, some 2⟩
        else .error ⟨offset, some 1⟩
    else if within 0xF0 0xF4 first then
      match rest with
      | [] => .error ⟨offset, none⟩
      | second :: rest =>
        if secondOfFour first second then
          match rest with
          | [] => .error ⟨offset, none⟩
          | third :: rest =>
            if continues third then
              match rest with
              | [] => .error ⟨offset, none⟩
              | fourth :: rest =>
                if continues fourth then
                  (decodeFrom (offset + 4) rest).map
                    (assemble (first.toNat % 8) [second, third, fourth] :: ·)
                else .error ⟨offset, some 3⟩
            else .error ⟨offset, some 2⟩
        else .error ⟨offset, some 1⟩
    else .error ⟨offset, some 1⟩

/-- The characters of a text. -/
def decode (bytes : List UInt8) : Except Malformed (List Char) :=
  decodeFrom 0 bytes

end RecordDerive.Wire.Utf8
