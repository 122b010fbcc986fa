import RecordDerive.Grammar.Form
import RecordDerive.Metadata.NameTable

/-!
# Plain types

Metadata renders the types of fields from names.  Where these are plain, so are the types:
their texts, the tokens these are divided into, and the phrases the tokens make up follow
one recursion.
-/

namespace RecordDerive.Grammar

open Metadata (NameTable)

/-! ## Names -/

/-- Whether an ASCII identifier may begin with a character. -/
def isAsciiStart (c : Char) : Bool := c.isAlpha || c = '_'

/-- Whether an ASCII identifier may go on with a character. -/
def isAsciiContinue (c : Char) : Bool := c.isAlphanum || c = '_'

theorem isAsciiStart_iff {c : Char} : isAsciiStart c = true ↔ c.isAlpha = true ∨ c = '_' := by
  simp [isAsciiStart]

theorem isAsciiContinue_iff {c : Char} :
    isAsciiContinue c = true ↔ (c.isAlpha = true ∨ c.isDigit = true) ∨ c = '_' := by
  simp [isAsciiContinue, Char.isAlphanum]

/-- Whether a text is an ASCII identifier, keywords included. -/
def isAsciiIdentifier (text : String) : Bool :=
  match text.toList with
  | [] => false
  | first :: rest => isAsciiStart first && rest.all isAsciiContinue

theorem exists_of_isAsciiIdentifier {text : String} (identifier : isAsciiIdentifier text = true) :
    ∃ first rest, text.toList = first :: rest ∧ isAsciiStart first = true ∧
      ∀ c ∈ rest, isAsciiContinue c = true := by
  cases spelled : text.toList with
  | nil =>
      rw [isAsciiIdentifier, spelled] at identifier
      cases identifier
  | cons first rest =>
      rw [isAsciiIdentifier, spelled] at identifier
      obtain ⟨starts, continues⟩ := Bool.and_eq_true_iff.mp identifier
      exact ⟨first, rest, rfl, starts, List.all_eq_true.mp continues⟩

/-- Whether a text is an ASCII identifier and no keyword. -/
def isPlainName (text : String) : Bool :=
  isAsciiIdentifier text && !keywords.contains text

/-- An ASCII identifier that is no keyword. -/
structure PlainName where
  text : String
  plain : isPlainName text = true

/-! ## Types -/

/-- A type made of classes with plain names, tuples and arrays.  A type that may be absent
is a class with one argument. -/
inductive PlainType
  | applied (first : PlainName) (rest : List PlainName) (arguments : List PlainType)
  | tuple (elements : List PlainType)
  | array (element : PlainType) (length : Nat)

/-- The texts of names. -/
def PlainName.texts (names : List PlainName) : List String := names.map (·.text)

/-- The separator between words as tokens. -/
def colons : List Token := [.mark ':' true, .mark ':' false]

/-- Words with separators between them, as tokens. -/
def wordTokens : List String → List Token
  | [] => []
  | [only] => [.word only]
  | first :: rest => .word first :: (colons ++ wordTokens rest)

theorem wordTokens_cons (first second : String) (others : List String) :
    wordTokens (first :: second :: others) =
      .word first :: (colons ++ wordTokens (second :: others)) := rfl

/-- The steps of a path whose last one has arguments. -/
def pathSteps (arguments : List Phrase) : List String → List Phrase
  | [] => []
  | [only] => [.step only false arguments]
  | first :: rest => .plainStep first :: pathSteps arguments rest

namespace PlainType

mutual

/-- The text of a type. -/
def text : PlainType → String
  | .applied first rest arguments =>
    NameTable.appliedText (Text.join (PlainName.texts (first :: rest))) (texts arguments)
  | .tuple elements => NameTable.tupleText (texts elements)
  | .array element length => "[" ++ element.text ++ "; " ++ toString length ++ "]"

/-- The texts of types. -/
def texts : List PlainType → List String
  | [] => []
  | first :: rest => first.text :: texts rest

end

mutual

/-- The tokens of a type; `followed` tells whether a mark follows without a gap. -/
def tokens (followed : Bool) : PlainType → List Token
  | .applied first rest arguments =>
    wordTokens (PlainName.texts (first :: rest)) ++
      if arguments.isEmpty then []
      else .mark '<' false :: (listTokens true arguments ++ [.mark '>' followed])
  | .tuple elements =>
    let single := elements.length = 1
    [.group .round (listTokens single elements ++ if single then [.mark ',' false] else [])]
  | .array element length =>
    [.group .square (element.tokens true ++ [.mark ';' false, .literal (toString length)])]

/-- The tokens of types with commas between them. -/
def listTokens (followed : Bool) : List PlainType → List Token
  | [] => []
  | first :: rest =>
    if rest.isEmpty then first.tokens followed
    else first.tokens true ++ .mark ',' false :: listTokens followed rest

end

mutual

/-- The phrase of a type. -/
def phrase : PlainType → Phrase
  | .applied first rest arguments =>
    .path false (pathSteps (phrases arguments) (PlainName.texts (first :: rest)))
  | .tuple elements => .tuple (phrases elements)
  | .array element length => .array element.phrase (.literal (toString length))

/-- The phrases of types. -/
def phrases : List PlainType → List Phrase
  | [] => []
  | first :: rest => first.phrase :: phrases rest

end

theorem text_applied (first : PlainName) (rest : List PlainName) (arguments : List PlainType) :
    text (.applied first rest arguments) =
      NameTable.appliedText (Text.join (PlainName.texts (first :: rest))) (texts arguments) := rfl

theorem text_tuple (elements : List PlainType) :
    text (.tuple elements) = NameTable.tupleText (texts elements) := rfl

theorem text_array (element : PlainType) (length : Nat) :
    text (.array element length) = "[" ++ element.text ++ "; " ++ toString length ++ "]" := rfl

@[simp] theorem texts_nil : texts [] = [] := rfl

@[simp] theorem texts_cons (first : PlainType) (rest : List PlainType) :
    texts (first :: rest) = first.text :: texts rest := rfl

theorem listTokens_single (followed : Bool) (only : PlainType) :
    listTokens followed [only] = only.tokens followed := rfl

theorem listTokens_cons (followed : Bool) (first second : PlainType) (others : List PlainType) :
    listTokens followed (first :: second :: others) =
      first.tokens true ++ .mark ',' false :: listTokens followed (second :: others) := rfl

theorem tokens_name (followed : Bool) (first : PlainName) (others : List PlainName) :
    tokens followed (.applied first others []) =
      wordTokens (PlainName.texts (first :: others)) := List.append_nil _

theorem tokens_applied (followed : Bool) (first : PlainName) (others : List PlainName)
    (argument : PlainType) (arguments : List PlainType) :
    tokens followed (.applied first others (argument :: arguments)) =
      wordTokens (PlainName.texts (first :: others)) ++ .mark '<' false ::
        (listTokens true (argument :: arguments) ++ [.mark '>' followed]) := rfl

theorem tokens_unit (followed : Bool) : tokens followed (.tuple []) = [.group .round []] := rfl

/-- A mark behind the only element tells a tuple from what stands in parentheses. -/
theorem tokens_single (followed : Bool) (only : PlainType) :
    tokens followed (.tuple [only]) =
      [.group .round (only.tokens true ++ [.mark ',' false])] := rfl

theorem tokens_several (followed : Bool) (first second : PlainType) (others : List PlainType) :
    tokens followed (.tuple (first :: second :: others)) =
      [.group .round (listTokens false (first :: second :: others))] := by
  simp [tokens]

theorem tokens_array (followed : Bool) (element : PlainType) (length : Nat) :
    tokens followed (.array element length) =
      [.group .square (element.tokens true ++ [.mark ';' false, .literal (toString length)])] :=
  rfl

/-- What holds of a type whenever it holds of the types inside it holds of all types. -/
@[induction_eliminator]
theorem induct {motive : PlainType → Prop}
    (applied : ∀ first rest arguments, (∀ argument ∈ arguments, motive argument) →
      motive (.applied first rest arguments))
    (tuple : ∀ elements, (∀ element ∈ elements, motive element) → motive (.tuple elements))
    (array : ∀ element length, motive element → motive (.array element length)) :
    (type : PlainType) → motive type
  | .applied first rest arguments =>
      applied first rest arguments fun argument _ => induct applied tuple array argument
  | .tuple elements => tuple elements fun element _ => induct applied tuple array element
  | .array element length => array element length (induct applied tuple array element)

theorem phrases_eq_map (types : List PlainType) : phrases types = types.map phrase := by
  induction types with
  | nil => rfl
  | cons first rest ih => rw [phrases, ih, List.map_cons]

end PlainType

end RecordDerive.Grammar
