/-!
# Diagnostics

What a host is told about its declarations.  A fatal diagnostic makes its build
fail in the end, but never keeps other declarations from being processed.
-/

namespace RecordDerive

/-- How grave a diagnostic is. -/
inductive Severity
  | fatal
  | warning
  deriving Repr, DecidableEq

/-- The name of a severity. -/
def Severity.text : Severity → String
  | .fatal => "fatal"
  | .warning => "warning"

/-- A message about a declaration. -/
structure Diagnostic where
  severity : Severity
  /-- The name the declaration is reported under. -/
  declaration : String
  message : String
  deriving Repr, DecidableEq

namespace Diagnostic

/-- A fatal diagnostic. -/
def fatal (declaration message : String) : Diagnostic := ⟨.fatal, declaration, message⟩

/-- A diagnostic that changes nothing. -/
def warning (declaration message : String) : Diagnostic := ⟨.warning, declaration, message⟩

/-- Whether a diagnostic is fatal. -/
def isFatal (diagnostic : Diagnostic) : Bool :=
  diagnostic.severity == .fatal

/-- The line a diagnostic is shown as. -/
def text (diagnostic : Diagnostic) : String :=
  diagnostic.severity.text ++ ": " ++ diagnostic.message

end Diagnostic

/-- Diagnostics in the order they were reported. -/
structure Diagnostics where
  all : List Diagnostic
  deriving Repr, DecidableEq

namespace Diagnostics

/-- Nothing reported. -/
def empty : Diagnostics := ⟨[]⟩

/-- The diagnostics with one more. -/
def report (diagnostics : Diagnostics) (diagnostic : Diagnostic) : Diagnostics :=
  ⟨diagnostics.all ++ [diagnostic]⟩

/-- The fatal ones. -/
def fatal (diagnostics : Diagnostics) : List Diagnostic :=
  diagnostics.all.filter Diagnostic.isFatal

/-- The ones that are not fatal. -/
def warnings (diagnostics : Diagnostics) : List Diagnostic :=
  diagnostics.all.filter (!Diagnostic.isFatal ·)

/-- Whether a fatal one was reported. -/
def hasFatal (diagnostics : Diagnostics) : Bool :=
  diagnostics.all.any Diagnostic.isFatal

end Diagnostics

end RecordDerive
