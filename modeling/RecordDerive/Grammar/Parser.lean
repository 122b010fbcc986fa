import RecordDerive.Grammar.Item
import RecordDerive.Grammar.Statement

/-!
# Reading whole texts

The readings of nested phrases are tied to themselves at one level less.  Between
two levels that consume no token lie a few others at most, so a fixed number of
levels for each token is enough.
-/

namespace RecordDerive.Grammar.Parse

/-- The readings of phrases that nest at most the given number of levels. -/
def nested (steps : Nat) : Nat → Nested
  | 0 => {
      steps
      type := fun _ => throw .outOfSteps
      bound := fun _ => throw .outOfSteps
      expression := fun _ _ => throw .outOfSteps
      rightOperand := fun _ _ => throw .outOfSteps
      alternative := throw .outOfSteps
      pattern := throw .outOfSteps
      statements := throw .outOfSteps
      item := throw .outOfSteps
      useTree := throw .outOfSteps }
  | levels + 1 =>
    let inner := nested steps levels
    { steps
      type := type inner
      bound := bound inner
      expression := expression inner
      rightOperand := operandAfter inner
      alternative := alternative inner
      pattern := pattern inner
      statements := statements inner steps
      item := item inner
      useTree := do return (← useTree inner false steps).getD default }

/-- The most levels that lie between two tokens. -/
def levelsPerToken : Nat := 8

/-- The readings of phrases in some tokens. -/
def nestedFor (tokens : List Token) : Nested :=
  let count := Token.sizes tokens + 1
  nested count (levelsPerToken * count)

/-- The phrase that a text makes up as a whole, with its tokens as they are
spelled again. -/
def wholeText (reading : Nested → Parse Phrase) (text : String) :
    Except Fault (Phrase × List Token) :=
  match Lexer.tokens text with
  | none => .error .notTokens
  | some tokens => run (reading (nestedFor tokens)) tokens

end Parse

/-- The type that a text spells. -/
def Phrase.readType (text : String) : Except Fault Phrase :=
  Prod.fst <$> Parse.wholeText (Parse.type · true) text

/-- The path that a text spells. -/
def Phrase.readPath (text : String) : Except Fault Phrase :=
  Prod.fst <$> Parse.wholeText (Parse.path · false) text

/-- The spelling of the path that a text makes up, with single blanks between its
tokens. -/
def spellPath (text : String) : Except Fault String :=
  (fun found => Token.spellAll .start found.2) <$> Parse.wholeText (Parse.path · false) text

end RecordDerive.Grammar
