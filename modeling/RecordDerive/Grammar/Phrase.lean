import RecordDerive.Grammar.Token

/-!
# Phrases

The types of fields, the paths of declarations, and all that can stand inside
them: array lengths and blocks bring in expressions, patterns, statements and
items.  A phrase keeps what its layout needs; the commas and blanks of its source
are not kept.
-/

namespace RecordDerive.Grammar

/-- What source can be that is accepted and has no layout. -/
inductive Unsupported
  | type
  | bound
  | expression
  | pattern
  | item
  | traitItem
  | implItem
  | foreignItem
  deriving Repr, DecidableEq

/-- How a kind of source without layout is called. -/
def Unsupported.text : Unsupported → String
  | .type => "Type"
  | .bound => "TypeParamBound"
  | .expression => "Expr"
  | .pattern => "Pat"
  | .item => "Item"
  | .traitItem => "TraitItem"
  | .implItem => "ImplItem"
  | .foreignItem => "ForeignItem"

/-- What a block is evaluated as. -/
inductive BlockKind
  | plain
  | constant
  | unchecked
  | attempted
  | suspended (moving : Bool)
  deriving Repr, DecidableEq

/-- What stands before a block of some kind. -/
def BlockKind.lead : BlockKind → String
  | .plain => ""
  | .constant => "const "
  | .unchecked => "unsafe "
  | .attempted => "try "
  | .suspended false => "async "
  | .suspended true => "async move "

/-- Where the definition of a type has its condition. -/
inductive TypeForm
  /-- Before its meaning. -/
  | early
  /-- After its meaning. -/
  | late
  /-- Nowhere, as it has no meaning. -/
  | bare
  deriving Repr, DecidableEq

/-- A piece of source text by its grammar. -/
inductive Phrase
  /-- Steps with `::` between them, and before the first of a rooted path. -/
  | path (rooted : Bool) (steps : List Phrase)
  /-- A step of a path, with its generic arguments.  In an expression these
  stand behind a `::` of their own. -/
  | step (name : String) (inExpression : Bool) (arguments : List Phrase)
  /-- A step of a path that is applied like a function type. -/
  | appliedStep (name : String) (inputs : List Phrase) (output : Option Phrase)
  /-- Steps that start from a type, perhaps as an implementation of a path. -/
  | projection (type : Phrase) (within : Option Phrase) (steps : List Phrase)
  | lifetime (name : String)
  /-- An associated type or constant that is fixed among generic arguments. -/
  | binding (name : String) (arguments : List Phrase) (value : Phrase)
  /-- An associated type that is bounded among generic arguments. -/
  | constraint (name : String) (arguments : List Phrase) (bounds : List Phrase)
  /-- A bound that may be absent. -/
  | relaxed (bound : Phrase)
  /-- The generic parameters that some type may depend on. -/
  | capture (names : List String)
  /-- A phrase under parameters that it introduces. -/
  | quantified (parameters : List Phrase) (inner : Phrase)
  /-- A lifetime that is introduced, with the lifetimes it outlives. -/
  | lifetimeParameter (name : String) (bounds : List String)
  | typeParameter (name : String) (bounds : List Phrase) (default : Option Phrase)
  | constantParameter (name : String) (type : Phrase) (default : Option Phrase)
  /-- A condition on the parameters of an item. -/
  | predicate (subject : Phrase) (bounds : List Phrase)
  | parenthesized (inner : Phrase)
  | tuple (elements : List Phrase)
  /-- An element and how often it is repeated. -/
  | array (element length : Phrase)
  | slice (element : Phrase)
  | reference (lifetime : Option String) (mutable : Bool) (target : Phrase)
  | pointer (mutable : Bool) (target : Phrase)
  /-- A function type; `lead` is what stands before its parameters, and `more`
  stands for any number of further ones. -/
  | function (lead : String) (parameters : List Phrase) (more : Option Phrase)
    (output : Option Phrase)
  /-- Something with its type after a colon, or with what it is matched by. -/
  | typed (subject : Phrase) (type : Phrase)
  /-- Some type behind bounds, with or without the keyword for it in the
  source. -/
  | object (marked : Bool) (bounds : List Phrase)
  /-- One type behind bounds. -/
  | existential (bounds : List Phrase)
  /-- A phrase of fixed text. -/
  | fixed (text : String)
  /-- A use of a path that is given tokens to expand. -/
  | expansion (path : Phrase) (bracket : Bracket) (tokens : List Token)
  /-- Tokens that are accepted and have no layout. -/
  | verbatim (kind : Unsupported) (tokens : List Token)
  /-- A phrase with the decorations before it. -/
  | decorated (decorations : List Phrase) (inner : Phrase)
  /-- A decoration; one that stands inside what it decorates has another
  mark. -/
  | decoration (inside : Bool) (name : String)
  | decorationTokens (inside : Bool) (name : String) (bracket : Bracket) (tokens : List Token)
  | decorationValue (inside : Bool) (name : String) (value : Phrase)
  /-- A decoration that is written as a comment. -/
  | comment (text : String)
  | literal (text : String)
  | unary (operator : String) (operand : Phrase)
  | binary (operator : String) (left right : Phrase)
  | cast (value type : Phrase)
  | call (callee : Phrase) (arguments : List Phrase)
  | index (value position : Phrase)
  /-- A member of a value, or the value that is waited for. -/
  | field (value : Phrase) (member : String)
  | methodCall (receiver : Phrase) (name : String) (typeArguments : List Phrase)
    (arguments : List Phrase)
  /-- A value whose failure is passed on. -/
  | propagated (value : Phrase)
  | range (start : Option Phrase) (limits : String) (finish : Option Phrase)
  | assignment (target value : Phrase)
  /-- The test whether a value matches a pattern. -/
  | matching (pattern value : Phrase)
  | list (elements : List Phrase)
  | closure (lead : String) (inputs : List Phrase) (output : Option Phrase) (body : Phrase)
  | record (path : Phrase) (fields : List Phrase) (rest : Option Phrase)
  | fieldValue (name : String) (value : Phrase)
  | block (kind : BlockKind) (label : Option String) (decorations : List Phrase)
    (statements : List Phrase)
  | conditional (condition : Phrase) (consequent : List Phrase) (alternative : Option Phrase)
  | whileLoop (label : Option String) (condition : Phrase) (decorations : List Phrase)
    (statements : List Phrase)
  | forLoop (label : Option String) (pattern values : Phrase) (decorations : List Phrase)
    (statements : List Phrase)
  | endlessLoop (label : Option String) (decorations : List Phrase) (statements : List Phrase)
  | choice (value : Phrase) (decorations : List Phrase) (arms : List Phrase)
  | arm (pattern : Phrase) (guard : Option Phrase) (body : Phrase)
  /-- A jump, with what precedes its value. -/
  | jump (lead : String) (value : Option Phrase)
  | letStatement (pattern : Phrase) (value : Option Phrase) (otherwise : Option Phrase)
  | expressionStatement (value : Phrase) (terminated : Bool)
  | expansionStatement (expansion : Phrase) (terminated : Bool)
  /-- A statement that consists of its end. -/
  | emptyStatement
  /-- A name that a pattern binds, perhaps to what matches another pattern. -/
  | named (lead : String) (name : String) (inner : Option Phrase)
  | alternatives (cases : List Phrase)
  | slicePattern (elements : List Phrase)
  /-- Patterns in parentheses; a single one may have a comma after it. -/
  | tuplePattern (elements : List Phrase) (comma : Bool)
  | appliedPattern (path : Phrase) (elements : List Phrase)
  | recordPattern (path : Phrase) (fields : List Phrase) (rest : Option Phrase)
  /-- A constant or static value; `lead` is all up to its type. -/
  | constantItem (lead : String) (type : Phrase) (value : Option Phrase)
  | functionItem (lead : String) (generics : List Phrase) (parameters : List Phrase)
    (more : Option Phrase) (output : Option Phrase) (predicates : List Phrase)
    (body : Option Phrase)
  | typeItem (form : TypeForm) (lead : String) (generics : List Phrase) (bounds : List Phrase)
    (meaning : Option Phrase) (predicates : List Phrase)
  /-- Fields or variants in curly brackets. -/
  | recordItem (lead : String) (generics : List Phrase) (predicates : List Phrase)
    (members : List Phrase)
  /-- A type with the given fields in parentheses, or with none. -/
  | tupleItem (lead : String) (generics : List Phrase) (fields : Option Phrase)
    (predicates : List Phrase)
  | recordFields (fields : List Phrase)
  | tupleFields (fields : List Phrase)
  | variant (name : String) (fields : Option Phrase) (value : Option Phrase)
  /-- A field with what stands before its type. -/
  | fieldItem (lead : String) (type : Phrase)
  /-- Items in curly brackets, under a name with bounds. -/
  | groupItem (lead : String) (generics : List Phrase) (bounds : List Phrase)
    (predicates : List Phrase) (decorations : List Phrase) (items : List Phrase)
  | implementationItem (lead : String) (generics : List Phrase) (origin : Option Phrase)
    (type : Phrase) (predicates : List Phrase) (decorations : List Phrase) (items : List Phrase)
  | boundsItem (lead : String) (generics : List Phrase) (bounds : List Phrase)
    (predicates : List Phrase)
  | useItem (lead : String) (tree : Phrase)
  | useStep (name : String) (rest : Phrase)
  | useGroup (trees : List Phrase)
  /-- An item of fixed text. -/
  | fixedItem (text : String)
  /-- An expansion that stands as an item, perhaps under a name. -/
  | expansionItem (path : Phrase) (name : Option String) (bracket : Bracket) (tokens : List Token)

instance : Inhabited Phrase := ⟨.fixed ""⟩

namespace Phrase

/-- A step without generic arguments. -/
def plainStep (name : String) : Phrase := .step name false []

/-- A path without generic arguments. -/
def plainPath (rooted : Bool) (names : List String) : Phrase :=
  .path rooted (names.map plainStep)

/-- A path with one more step. -/
def extend (name : String) : Phrase → Phrase
  | .path rooted steps => .path rooted (steps ++ [plainStep name])
  | other => other

/-- A phrase behind decorations, if there are any. -/
def decorate (decorations : List Phrase) (inner : Phrase) : Phrase :=
  if decorations.isEmpty then inner else .decorated decorations inner

/-- Whether a path is not rooted and begins with the given name. -/
def beginsWith (name : String) : Phrase → Bool
  | .path false (.step first _ _ :: _) => first == name
  | _ => false

/-- Whether the first token of a phrase is a lifetime. -/
def beginsWithLifetime : Phrase → Bool
  | .object false (.lifetime _ :: _) => true
  | _ => false

/-- Whether a phrase is a lifetime. -/
def isLifetime : Phrase → Bool
  | .lifetime _ => true
  | _ => false

/-- Whether a phrase introduces a lifetime. -/
def introducesLifetime : Phrase → Bool
  | .lifetimeParameter .. => true
  | .decorated _ (.lifetimeParameter ..) => true
  | _ => false

/-- Whether a bound is by a trait. -/
def isTrait : Phrase → Bool
  | .lifetime _ | .capture _ => false
  | _ => true

end Phrase

end RecordDerive.Grammar
