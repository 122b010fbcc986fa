/-!
# Format versions

Metadata carries the version of the format it was written in.  A reader accepts
its own major version up to its own minor version; the patch number never
matters.
-/

namespace RecordDerive.Metadata

/-- A version of the metadata format. -/
structure Version where
  major : UInt16
  minor : UInt16
  patch : UInt16
  deriving Repr, DecidableEq

namespace Version

/-- The version that is written, and the newest that is read. -/
def current : Version := ⟨1, 2, 0⟩

/-- The three numbers, separated by dots. -/
def text (version : Version) : String :=
  toString version.major.toNat ++ "." ++ toString version.minor.toNat ++ "." ++
    toString version.patch.toNat

/-- Whether a reader of the `supported` version understands this one. -/
def isReadableBy (version supported : Version) : Bool :=
  version.major == supported.major && version.minor ≤ supported.minor

/-- The order of versions: by major, then minor, then patch number. -/
def compare (left right : Version) : Ordering :=
  (Ord.compare left.major.toNat right.major.toNat).then <|
    (Ord.compare left.minor.toNat right.minor.toNat).then <|
      Ord.compare left.patch.toNat right.patch.toNat

end Version

end RecordDerive.Metadata
