import RecordDerive.Declaration.Extraction
import RecordDerive.Declaration.Product

/-!
# Accepting declarations

A declaration is accepted if its fields fit a tuple.  One without fields is
accepted.
-/

namespace RecordDerive

/-- The causes for which a declaration is not accepted. -/
inductive ValidationFault
  | tooManyFields (name : String) (actual max : Nat)
  deriving Repr, DecidableEq

namespace ValidationFault

/-- The name a fault is reported under. -/
def declaration : ValidationFault → String
  | .tooManyFields name _ _ => name

/-- The wording of a fault. -/
def message : ValidationFault → String
  | .tooManyFields name actual max =>
      name ++ " declares " ++ toString actual ++ " constructor parameters, up to max=" ++
        toString max ++ " are supported"

end ValidationFault

/-- The declaration, if it has no more fields than a tuple may have. -/
def Declaration.validate {H : Type} (declaration : Declaration H) :
    Except ValidationFault (Declaration H) :=
  if declaration.arity ≤ maxArity then .ok declaration
  else .error (.tooManyFields declaration.qualifiedName declaration.arity maxArity)

/-- The causes for which a handle yields no declaration. -/
inductive DeclarationFault
  | extraction (fault : ExtractionFault)
  | validation (fault : ValidationFault)
  deriving Repr, DecidableEq

namespace DeclarationFault

/-- The name a fault is reported under. -/
def declaration : DeclarationFault → String
  | .extraction fault => fault.declaration
  | .validation fault => fault.declaration

/-- The wording of a fault. -/
def message : DeclarationFault → String
  | .extraction fault => fault.message
  | .validation fault => fault.message

end DeclarationFault

/-- The accepted declaration behind a handle. -/
def Source.accept {H : Type} (source : Source H) (handle : H) :
    Except DeclarationFault (Declaration H) := do
  let declaration ← (source.extract handle).mapError .extraction
  declaration.validate.mapError .validation

end RecordDerive
