import RecordDerive.Wire.Fault
import RecordDerive.Wire.Utf8

/-!
# Reading bytes under a limit

A reader consumes bytes from the front and keeps count of the bytes it has
claimed.  A claim is made before the read that needs it, for the full width of
an integer whatever its spelling, and for the whole content of a list or text
as soon as its length is known; so a length that no input could honour is
refused before anything of that size is built.

Integers are spelled in one byte up to 250, and otherwise in two, four or eight
bytes, least significant first, behind a lead byte that tells which.  Writing
uses the shortest spelling; reading accepts any that is no wider than the
integer's type.
-/

namespace RecordDerive.Wire

/-- The number of bytes one reading may claim. -/
def claimLimit : Nat := 16777216

/-- The bytes ahead of a reader and the count of those it has claimed. -/
structure Feed where
  ahead : List UInt8
  claimed : Nat
  deriving Repr, DecidableEq

/-- A computation that consumes a feed or stops at a fault. -/
abbrev Reader := StateT Feed (Except Fault)

/-- The types an integer is read at. -/
inductive Word
  | word16
  | word32
  | word64
  deriving Repr, DecidableEq

/-- The bytes claimed for an integer. -/
def Word.size : Word → Nat
  | .word16 => 2
  | .word32 => 4
  | .word64 => 8

/-- The widest spelling of an integer. -/
def Word.widest : Word → Spelling
  | .word16 => .two
  | .word32 => .four
  | .word64 => .eight

/-! ## Writing -/

/-- The `count` low bytes of a number, least significant first. -/
def littleEndian : Nat → Nat → List UInt8
  | 0, _ => []
  | count + 1, number => UInt8.ofNat (number % 256) :: littleEndian count (number / 256)

/-- The shortest spelling of a number below `2 ^ 64`. -/
def writeNat (number : Nat) : List UInt8 :=
  if number ≤ 250 then [UInt8.ofNat number]
  else if number < 65536 then 251 :: littleEndian 2 number
  else if number < 4294967296 then 252 :: littleEndian 4 number
  else 253 :: littleEndian 8 number

/-- A truth value as one byte. -/
def writeBool (value : Bool) : List UInt8 :=
  [if value then 1 else 0]

/-- A length and the items after it. -/
def writeList {α : Type} (item : α → List UInt8) (items : List α) : List UInt8 :=
  writeNat items.length ++ items.flatMap item

/-- A length in bytes and the bytes. -/
def writeBytes (bytes : List UInt8) : List UInt8 :=
  writeNat bytes.length ++ bytes

/-- A text as its UTF-8 bytes. -/
def writeText (text : String) : List UInt8 :=
  writeBytes (Utf8.encode text.toList)

/-! ## Reading -/

namespace Reader

/-- Claim bytes about to be read. -/
def claim (count : Nat) : Reader Unit := fun feed =>
  if feed.claimed + count ≤ claimLimit then
    .ok ((), { feed with claimed := feed.claimed + count })
  else .error .limitExceeded

/-- Give back bytes claimed for an item that is about to claim its own. -/
def refund (count : Nat) : Reader Unit := fun feed =>
  .ok ((), { feed with claimed := feed.claimed - count })

/-- The next `count` bytes. -/
def take (count : Nat) : Reader (List UInt8) := fun feed =>
  let bytes := feed.ahead.take count
  if bytes.length = count then
    .ok (bytes, { feed with ahead := feed.ahead.drop count })
  else .error (.endOfInput (count - bytes.length))

/-- The next byte. -/
def byte : Reader UInt8 := fun feed =>
  match feed.ahead with
  | [] => .error (.endOfInput 1)
  | first :: rest => .ok (first, { feed with ahead := rest })

/-- The number that bytes spell, least significant first. -/
def ofLittleEndian (bytes : List UInt8) : Nat :=
  bytes.foldr (fun byte number => byte.toNat + 256 * number) 0

/-- The spelling announced by a lead byte above 250. -/
def spelling (lead : UInt8) : Spelling :=
  if lead = 251 then .two
  else if lead = 252 then .four
  else if lead = 253 then .eight
  else if lead = 254 then .sixteen
  else .reserved

/-- The spelling that a refused integer is said to be expected in.  For one of
eight bytes with nine bytes at hand, the report names four instead. -/
def expectedSpelling (word : Word) (atHand : Nat) : Spelling :=
  if word = .word64 ∧ 9 ≤ atHand then .four else word.widest

/-- An integer of the given type.  A spelling too wide for it is refused before
its bytes are looked for. -/
def nat (word : Word) : Reader Nat := do
  claim word.size
  let atHand := (← get).ahead.length
  let lead ← byte
  if lead ≤ 250 then
    return lead.toNat
  let found := spelling lead
  if 0 < found.size ∧ found.size ≤ word.size then
    return ofLittleEndian (← take found.size)
  else
    throw (.wideInteger (expectedSpelling word atHand) found)

/-- A truth value. -/
def bool : Reader Bool := do
  claim 1
  let found ← byte
  if found = 0 then
    return false
  else if found = 1 then
    return true
  else
    throw (.notBoolean found)

/-- The tag of a value. -/
def tag (type : Tagged) : Reader Nat := do
  let found ← nat .word32
  if found ≤ type.last then
    return found
  else
    throw (.unknownTag type found)

/-- The type of an optional index, as faults name it. -/
def optionalIndex : Tagged := ⟨"core::option::Option<u32>", 1⟩

/-- Nothing, or an item behind a byte that says so. -/
def optional {α : Type} (item : Reader α) : Reader (Option α) := do
  claim 1
  let found ← byte
  if found = 0 then
    return none
  else if found = 1 then
    return some (← item)
  else
    throw (.unknownTag optionalIndex found.toNat)

/-- As many items as asked for, each after its share of the claim is given
back. -/
def items {α : Type} (size : Nat) (item : Reader α) : Nat → Reader (List α)
  | 0 => return []
  | count + 1 => do
    refund size
    let first ← item
    let rest ← items size item count
    return first :: rest

/-- A list whose items take `size` bytes each in memory. -/
def list {α : Type} (size : Nat) (item : Reader α) : Reader (List α) := do
  let count ← nat .word64
  claim (count * size)
  items size item count

/-- A byte string. -/
def bytes : Reader (List UInt8) := do
  let count ← nat .word64
  claim count
  take count

/-- A text. -/
def text : Reader String := do
  let content ← bytes
  match Utf8.decode content with
  | .ok characters => return String.ofList characters
  | .error fault => throw (.malformedText fault.validUpTo fault.length)

end Reader

/-- The value read from the front of the bytes, with the bytes after it. -/
def Reader.run {α : Type} (reader : Reader α) (bytes : List UInt8) :
    Except Fault (α × List UInt8) :=
  (StateT.run reader ⟨bytes, 0⟩).map fun result => (result.1, result.2.ahead)

end RecordDerive.Wire
