import RecordDerive.Metadata.Version
import RecordDerive.Wire.Fault

/-!
# Why metadata cannot be used

Metadata may be unreadable as bytes, foreign, too new, or readable but with
names that do not resolve.
-/

namespace RecordDerive.Metadata

/-- The causes for which metadata cannot be used. -/
inductive Fault
  | unreadable (fault : Wire.Fault)
  | badMagic
  | trailingBytes (extra : Nat)
  | incompatibleVersion (found supported : Version)
  /-- An index lies outside its table. -/
  | unknownName (index : UInt32)
  /-- The enclosing names of a qualified name never end. -/
  | cyclicName (index : UInt32)
  | typeTooDeep (limit : Nat)
  /-- Nothing is recorded under a label. -/
  | missing (label : String)
  deriving Repr, DecidableEq

/-- The wording of a fault. -/
def Fault.message : Fault → String
  | .unreadable fault => "Failed to decode declaration metadata: " ++ fault.message
  | .badMagic => "Invalid magic bytes in declaration metadata"
  | .trailingBytes extra => toString extra ++ " trailing bytes after declaration metadata"
  | .incompatibleVersion found supported =>
      "Incompatible metadata version: found " ++ found.text ++ ", supported " ++ supported.text
  | .unknownName index =>
      "Name index " ++ toString index.toNat ++ " is not present in the name table"
  | .cyclicName index =>
      "Qualified name " ++ toString index.toNat ++ " has a cyclic parent chain"
  | .typeTooDeep limit =>
      "Type reference nested deeper than " ++ toString limit ++ " levels"
  | .missing label => "No metadata recorded for " ++ label

end RecordDerive.Metadata
