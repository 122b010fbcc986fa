import RecordDerive.Grammar.Token
import RecordDerive.Layout.Doc

/-!
# Laying out tokens

Tokens whose grammar is not known, those given to an expansion, are laid out by
their neighbours alone: a break stands between most of them, none before a comma
or around a point inside a chain of names, and none after a joined mark.
-/

namespace RecordDerive.Layout

open RecordDerive.Grammar

/-- What a token stands after. -/
inductive Context
  | start
  | dollar
  | dollarName
  | dollarColon
  | dollarGroup
  | dollarSeparator
  | pound
  | poundBang
  | point
  | colon
  | pathSeparator
  | name
  | nameBang
  | group
  | other
  deriving Repr, DecidableEq

/-- The words that are laid out as keywords. -/
def spacedWords : List String :=
  ["as", "async", "await", "box", "break", "const", "continue", "crate", "dyn", "else", "enum",
    "extern", "fn", "for", "if", "impl", "in", "let", "loop", "macro", "match", "mod", "move",
    "mut", "pub", "ref", "return", "static", "struct", "trait", "type", "unsafe", "use", "where",
    "while", "yield"]

/-- What a word behind a dollar sign is to the token after it. -/
def afterDollar (matcher : Bool) (word : String) : Context :=
  if matcher then .dollarName else if word == "crate" then .name else .other

/-- Whether a break with a blank stands before a token, and what the next one
stands after.  In what an expansion is matched against, a name behind a dollar
sign has its kind after a colon. -/
def spacing (matcher : Bool) : Context → Token → Bool × Context
  | .dollar, .word text => (false, afterDollar matcher text)
  | .dollar, .group .round _ => (false, .dollarGroup)
  | .dollarName, .mark ':' false => (false, .dollarColon)
  | .dollarColon, .word _ => (false, .other)
  | .dollarGroup, .word _ | .dollarGroup, .literal _ => (false, .dollarSeparator)
  | .dollarGroup, .mark character joined =>
    if joined then (false, .dollarGroup)
    else if character = '+' || character = '*' || character = '?' then (false, .other)
    else (false, .dollarSeparator)
  | .dollarSeparator, .mark '+' _ | .dollarSeparator, .mark '*' _ => (false, .other)
  | .pound, .mark '!' _ => (false, .poundBang)
  | .pound, .group .square _ | .poundBang, .group .square _ => (false, .other)
  | .name, .group .round _ | .name, .group .square _ => (false, .group)
  | .name, .mark '!' false => (false, .nameBang)
  | .nameBang, .group .round _ | .nameBang, .group .square _ => (false, .other)
  | .colon, .mark ':' _ => (false, .pathSeparator)
  | _, .group .curly _ => (true, .other)
  | _, .group _ _ => (true, .group)
  | context, .word text =>
    if spacedWords.contains text then (true, .other)
    else (context != .point && context != .pathSeparator, .name)
  | context, .literal text => (context != .point, if text.endsWith "." then .other else .name)
  | context, .mark character joined =>
    if character = ',' || character = ';' then (false, .other)
    else if character = '.' && !matcher then (context != .name && context != .group, .point)
    else if character = ':' && joined then (context != .name, .colon)
    else if character = '$' then (true, .dollar)
    else if character = '#' then (true, .pound)
    else (true, .other)

/-- Whether the next token stands directly after this one. -/
def holdsNext : Token → Bool
  | .mark character joined => joined || character = '$'
  | _ => false

/-- Whether a token is a point. -/
def isPoint : Token → Bool
  | .mark '.' _ => true
  | _ => false

/-- The break before a token. -/
def breakBefore (attached spaced : Bool) (token : Token) : List Doc :=
  if attached then []
  else if spaced then [Doc.space]
  else if isPoint token then [Doc.zeroBreak]
  else []

mutual

/-- The document of a token. -/
def tokenDocs (matcher : Bool) : Token → List Doc
  | .word text => [.text text]
  | .mark character _ => [.text (String.singleton character)]
  | .literal text => [.text text]
  | .group .curly [] => [.text "\x7b", .text "\x7d"]
  | .group .curly inside =>
    [.text "\x7b", Doc.space] ++ tokensDocs matcher .start true inside ++
      [Doc.space, .text "\x7d"]
  | .group bracket inside =>
    [.text bracket.opening] ++ tokensDocs matcher .start true inside ++ [.text bracket.closing]

/-- The documents of tokens in a context; `attached` tells whether the first of
them stands directly after what is before it. -/
def tokensDocs (matcher : Bool) (context : Context) (attached : Bool) : List Token → List Doc
  | [] => []
  | first :: rest =>
    breakBefore attached (spacing matcher context first).1 first ++ tokenDocs matcher first ++
      tokensDocs matcher (spacing matcher context first).2 (holdsNext first) rest

end

/-- Tokens that may be broken over lines wherever they have to. -/
def filledTokens (matcher : Bool) (tokens : List Token) : Doc :=
  .group .inconsistent 0 (tokensDocs matcher .start true tokens)

/-! ## Expansions -/

/-- An expansion of a path over tokens in brackets, perhaps under a name. -/
def namedExpansionDocs (path : List Doc) (name : Option String) (bracket : Bracket)
    (tokens : List Token) : List Doc :=
  let opening := if bracket = .curly then " \x7b" else bracket.opening
  let lineBreak := if bracket = .curly then Doc.hardBreak else Doc.zeroBreak
  path ++ [.text "!"] ++ (match name with | some name => [.text (" " ++ name)] | none => []) ++
    [.text opening] ++
    (if tokens.isEmpty then [] else
      Doc.uniform Doc.indentWidth
        (lineBreak :: filledTokens false tokens :: Doc.dedented [lineBreak])) ++
    [.text bracket.closing]

/-- An expansion of a path over tokens in brackets. -/
def expansionDocs (path : List Doc) (bracket : Bracket) (tokens : List Token) : List Doc :=
  namedExpansionDocs path none bracket tokens

/-- What the rules of a definition of expansions may be followed by. -/
inductive RulePart
  | matcher
  | arrow
  | result
  | finish
  deriving Repr, DecidableEq

/-- The brackets of a rule around tokens, if there are any between them. -/
def ruleGroup (lineBreak : Doc) (matcher : Bool) (tokens : List Token) : List Doc :=
  if tokens.isEmpty then []
  else Doc.uniform Doc.indentWidth
    (lineBreak :: filledTokens matcher tokens :: Doc.dedented [lineBreak])

/-- The rules of a definition of expansions: what is matched, an arrow, what it
becomes, and a semicolon, which the last rule may lack.  Other rules have no
layout. -/
def ruleDocs : RulePart → List Token → List Doc
  | .matcher, [] => []
  | .finish, [] => [.text ";", Doc.hardBreak]
  | .arrow, [] | .result, [] => [Doc.hardBreak]
  | .matcher, .group bracket inside :: rest =>
    [.text bracket.opening] ++ ruleGroup Doc.zeroBreak true inside ++ [.text bracket.closing] ++
      ruleDocs .arrow rest
  | .arrow, .mark '=' true :: .mark '>' false :: rest =>
    .text " =" :: .text ">" :: ruleDocs .result rest
  | .arrow, [.mark '=' true] => [.text " =", Doc.hardBreak]
  | .result, .group _ inside :: rest =>
    [.text " \x7b", Doc.neverBreak] ++ ruleGroup Doc.hardBreak false inside ++ [.text "\x7d"] ++
      ruleDocs .finish rest
  | .finish, .mark ';' false :: rest => [.text ";", Doc.hardBreak] ++ ruleDocs .matcher rest
  | _, _ => [.unprintable "bad macro_rules syntax"]

/-- A definition of expansions by rules. -/
def rulesDocs (name : String) (tokens : List Token) : List Doc :=
  [.text "macro_rules! ", .text name, .text " \x7b"] ++
    Doc.uniform Doc.indentWidth
      (Doc.dedented (Doc.innerHardBreak :: ruleDocs .matcher tokens)) ++ [.text "\x7d"]

/-! ## Decorations -/

/-- Whether the last of some tokens is a comma. -/
def endInComma (tokens : List Token) : Bool :=
  match tokens.getLast? with
  | some (.mark ',' _) => true
  | _ => false

mutual

/-- The document of a token in a decoration. -/
def decorationToken : Token → List Doc
  | .word text => [.text text]
  | .mark character _ => [.text (String.singleton character)]
  | .literal text => [.text text]
  | .group .round inside =>
    let body := Doc.zeroBreak :: decorationTokens false inside
    let body := if endInComma inside then body else body ++ [Doc.zeroBreak]
    [.text "(", .group .consistent Doc.indentWidth (Doc.dedented body), .text ")"]
  | .group bracket inside =>
    [.text bracket.opening] ++ decorationTokens false inside ++ [.text bracket.closing]

/-- The documents of the tokens in a decoration; `afterWord` tells whether a word
or literal stands before them. -/
def decorationTokens (afterWord : Bool) : List Token → List Doc
  | [] => []
  | .mark character _ :: rest =>
    (if afterWord && character = '=' then [Doc.text " "] else []) ++
      (if character = ',' && rest.isEmpty then [Doc.trailingComma]
      else [.text (String.singleton character)] ++
        (if character = '=' then [.text " "] else if character = ',' then [Doc.space] else [])) ++
      decorationTokens false rest
  | .group bracket inside :: rest =>
    decorationToken (.group bracket inside) ++ decorationTokens false rest
  | first :: rest =>
    (if afterWord then [Doc.space] else []) ++ decorationToken first ++ decorationTokens true rest

end

end RecordDerive.Layout
