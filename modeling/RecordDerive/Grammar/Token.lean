/-!
# Tokens of Rust source text

A text is a sequence of words, marks, literals and bracketed groups.  A mark is
joined when another follows without a gap, which is what makes two of them one
operator.
-/

namespace RecordDerive.Grammar

/-- The brackets around a group. -/
inductive Bracket
  | round
  | square
  | curly
  deriving Repr, DecidableEq

/-- The opening character of a bracket. -/
def Bracket.opening : Bracket → String
  | .round => "("
  | .square => "["
  | .curly => "\x7b"

/-- The closing character of a bracket. -/
def Bracket.closing : Bracket → String
  | .round => ")"
  | .square => "]"
  | .curly => "\x7d"

/-- A token; a group holds the tokens between its brackets. -/
inductive Token
  /-- An identifier, keyword or underscore; raw identifiers keep their mark. -/
  | word (text : String)
  | mark (character : Char) (joined : Bool)
  | literal (text : String)
  | group (bracket : Bracket) (inside : List Token)
  deriving Repr, Inhabited

/-- The literal that stands for a place in which the text is broken; it is a
token, and no value. -/
def brokenLiteral : String := "(/*ERROR*/)"

/-- What a gap in a spelling depends on: whether anything stands before it, and
whether that was a joined mark. -/
inductive Gap
  | start
  | glued
  | open
  deriving Repr, DecidableEq

/-- The blank put into a gap. -/
def Gap.blank : Gap → String
  | .start | .glued => ""
  | .open => " "

mutual

/-- The spelling of a token. -/
def Token.spell : Token → String
  | .word text => text
  | .mark character _ => String.singleton character
  | .literal text => text
  | .group .curly [] => "\x7b \x7d"
  | .group .curly inside => "\x7b " ++ Token.spellAll .start inside ++ " \x7d"
  | .group bracket inside => bracket.opening ++ Token.spellAll .start inside ++ bracket.closing

/-- The spelling of tokens with single blanks between them, except after a
joined mark. -/
def Token.spellAll (gap : Gap) : List Token → String
  | [] => ""
  | first :: rest =>
    gap.blank ++ first.spell ++
      Token.spellAll (match first with | .mark _ true => .glued | _ => .open) rest

end

mutual

/-- The number of tokens in a token, itself included. -/
def Token.size : Token → Nat
  | .group _ inside => Token.sizes inside + 1
  | .word _ | .mark .. | .literal _ => 1

/-- The number of tokens in a sequence, those in groups included. -/
def Token.sizes : List Token → Nat
  | [] => 0
  | first :: rest => first.size + Token.sizes rest

end

end RecordDerive.Grammar
