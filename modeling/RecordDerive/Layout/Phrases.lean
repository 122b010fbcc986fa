import RecordDerive.Layout.Forms

/-!
# Laying out phrases

The documents of a phrase, by recursion on it.  What the layout of a phrase takes
from its surroundings is its position alone.
-/

namespace RecordDerive.Grammar.Phrase

open RecordDerive.Layout

/-- Whether an expansion has its tokens in curly brackets. -/
def isCurlyExpansion : Phrase → Bool
  | .expansion _ bracket _ => bracket = .curly
  | _ => false

/-- Whether what is used is a group at its end. -/
def endsInUseGroup : Phrase → Bool
  | .useStep _ rest => rest.endsInUseGroup
  | .useGroup _ => true
  | _ => false

/-- Whether the body of an alternative is laid out as a block. -/
def isPlainBlock : Phrase → Bool
  | .block .plain .. => true
  | _ => false

/-- Whether the body of a closure needs no brackets to go to a line of its
own. -/
def standsAlone : Phrase → Bool
  | .choice .. | .call .. => true
  | other => other.isEnclosed

/-- The semicolon after an expression that stands as a statement. -/
def statementEnd (value : Phrase) (terminated : Bool) : List Doc :=
  if (if terminated then !value.dropsSemicolon else value.isEffect) then [.text ";"] else []

/-- Whether a semicolon follows an expansion that stands as a statement. -/
def closesExpansion (position : Position) (value : Phrase) (terminated : Bool) : Bool :=
  terminated ||
    match position with
    | .statement _ isLast => !isLast && !value.isCurlyExpansion
    | _ => false

/-- Whether an expansion of a path defines expansions. -/
def definesExpansions : Phrase → Bool
  | .path false [.step name _ []] => name == "macro_rules"
  | _ => false

/-- How something without a layout is reported. -/
def withoutLayout (kind : Unsupported) (tokens : List Token) : Doc :=
  .unprintable (kind.text ++ "::Verbatim `" ++ Token.spellAll .start tokens ++ "`")

mutual

/-- The documents of a phrase at a position. -/
def docs (position : Position) : Phrase → List Doc
  | .path rooted steps =>
    (if rooted then [.text "::"] else []) ++ Doc.interspersed [.text "::"] (docsOf steps)
  | .step name inExpression arguments => .text name :: Form.angled inExpression (docsOf arguments)
  | .appliedStep name inputs output => .text name :: Form.applied (docsOf inputs) (docsOf? output)
  | .projection type within steps =>
    [.text "<"] ++ type.docs .inner ++ Form.prefixed " as " (docsOf? within) ++
      [.text ">", .text "::"] ++ Doc.interspersed [.text "::"] (docsOf steps)
  | .lifetime name => [.text name]
  | .binding name arguments value =>
    .text name :: Form.angled false (docsOf arguments) ++ [.text " = "] ++ value.docs .inner
  | .constraint name arguments bounds =>
    .text name :: Form.angled false (docsOf arguments) ++
      Doc.filled Doc.indentWidth (Form.bounds (.text ": ") (docsOf bounds))
  | .relaxed bound => .text "?" :: bound.docs .inner
  | .capture names => [.text ("use<" ++ String.intercalate ", " names ++ ">")]
  | .quantified parameters inner =>
    [.text "for<"] ++ Doc.interspersed [.text ", "] (docsOf parameters) ++ [.text "> "] ++
      inner.docs .inner
  | .lifetimeParameter name bounds => [.text (Form.lifetimeParameterText name bounds)]
  | .typeParameter name bounds default =>
    .text name ::
      Doc.filled Doc.indentWidth
        (Form.bounds (.text ": ") (docsOf bounds) ++
          match default with
          | none => []
          | some type => [Doc.space, .text "= "] ++ type.docs .inner)
  | .constantParameter name type default =>
    .text ("const " ++ name ++ ": ") :: type.docs .inner ++ Form.prefixed " = " (docsOf? default)
  | .predicate subject bounds =>
    Form.predicate subject.isLifetime (subject.docs .inner) (docsOf bounds)
  | .parenthesized inner => [.text "("] ++ inner.docs .inner ++ [.text ")"]
  | .tuple elements => Doc.tuple (docsOf elements)
  | .array element length =>
    [.text "["] ++ element.docs .inner ++ [.text "; "] ++ length.docs .inner ++ [.text "]"]
  | .slice element => [.text "["] ++ element.docs .inner ++ [.text "]"]
  | .reference region mutable target =>
    .text (Form.referenceLead region mutable) :: target.docs .inner
  | .pointer mutable target =>
    .text (if mutable then "*mut " else "*const ") :: target.docs .inner
  | .function lead parameters more output =>
    [.text lead] ++ Form.indented (Form.parameters (docsOf parameters) (docsOf? more)) ++
      [.text ")"] ++ Form.prefixed " -> " (docsOf? output)
  | .typed subject type => subject.docs .inner ++ [.text ": "] ++ type.docs .inner
  | .object _ bounds => .text "dyn " :: Doc.interspersed [.text " + "] (docsOf bounds)
  | .existential bounds => .text "impl " :: Doc.interspersed [.text " + "] (docsOf bounds)
  | .fixed text => [.text text]
  | .expansion expanded bracket tokens => expansionDocs (expanded.docs .inner) bracket tokens
  | .verbatim kind tokens => [withoutLayout kind tokens]
  | .decorated decorations inner => (docsOf decorations).flatten ++ inner.docs position
  | .decoration inside name => [.text (Form.decorationLead inside ++ name ++ "]"), Doc.space]
  | .decorationTokens inside name bracket tokens =>
    .text (Form.decorationLead inside ++ name) :: decorationToken (.group bracket tokens) ++
      [.text "]", Doc.space]
  | .decorationValue inside name value =>
    .text (Form.decorationLead inside ++ name ++ " = ") :: value.docs .inner ++
      [.text "]", Doc.space]
  | .comment text => [.text text, Doc.hardBreak]
  | .literal text => [.text text]
  | .unary operator operand => .text operator :: operand.docs .inner
  | .binary operator left right =>
    Form.operation (left.docs .inner) operator (right.docs .inner)
  | .cast value type => Form.operation (value.docs .inner) "as" (type.docs .inner)
  | .call callee arguments =>
    Form.head position callee.isLink (callee.docs position.callee) ++
      Form.arguments (arguments.any isEnclosed) (docsOf arguments)
  | .index value place =>
    Form.head position value.isLink (value.docs position) ++
      [.text "["] ++ place.docs .inner ++ [.text "]"]
  | .field value name =>
    Form.member position value.isShortName
      (Form.chainHead value.isLink (value.docs (.link position.startsLine))) [.text name]
  | .methodCall receiver name typeArguments arguments =>
    let shift :=
      if position = .lineStart && receiver.isShortName then -Doc.indentWidth else 0
    Form.member position receiver.isShortName
      (Form.chainHead receiver.isLink (receiver.docs (.link position.startsLine)))
      (.text name :: Form.angled true (docsOf typeArguments) ++
        Doc.uniform shift (Form.arguments (arguments.any isEnclosed) (docsOf arguments)))
  | .propagated value =>
    Form.head position value.isLink (value.docs position) ++ [.text "?"]
  | .range start limits finish =>
    (docsOf? start).getD [] ++ [.text limits] ++ (docsOf? finish).getD []
  | .assignment target value => Form.assignment (target.docs .inner) (value.docs .inner)
  | .matching pattern value =>
    Form.assignment (.text "let " :: pattern.docs .inner) (value.docs .inner)
  | .list elements => Form.list (elements.all isPlainLiteral) (docsOf elements)
  | .closure lead inputs output body =>
    [.text lead] ++
      match output with
      | some type =>
        Form.closureSignature (docsOf inputs) (type.docs .inner) ++ body.docs .inner
      | none =>
        Form.closureInputs (docsOf inputs) ++
          if body.standsAlone then body.docs .inner
          else Form.braced body.standsAsStatement body.isEffect "" "" (body.docs .inner)
  | .record type fields rest =>
    Doc.record (type.docs .inner)
      (Form.fields (docsOf fields) ((docsOf? rest).map (.text ".." :: ·)))
  | .fieldValue name value => .text (name ++ ": ") :: Doc.filled 0 (value.docs .inner)
  | .block kind label decorations statements =>
    let inner := (docsOf decorations).flatten
    if position = .body then inner ++ linesOf statements
    else if position = .arm then Form.label label ++ Form.longBlock (inner ++ linesOf statements)
    else
      let isEmpty := decorations.isEmpty && statements.isEmpty
      let short := Form.shortBlock isEmpty (inner ++ shortLinesOf statements)
      Form.label label ++ [.text kind.lead] ++
        if position = .branch then short else Form.indented short
  | .conditional condition consequent alternative =>
    let lead := Form.condition condition.mayBreak (condition.docs .inner)
    match alternative with
    | some other =>
      let chain :=
        Form.branches consequent.isEmpty lead (shortLinesOf consequent) (some (other.docs .branch))
      if position = .branch then chain else Form.indented chain
    | none =>
      if position = .branch then
        Form.branches consequent.isEmpty lead (shortLinesOf consequent) none
      else Form.indented (Form.conditional consequent.isEmpty lead (linesOf consequent))
  | .whileLoop label condition decorations statements =>
    Form.label label ++ [.text "while "] ++
      Form.condition condition.mayBreak (condition.docs .inner) ++
      Form.longBlock ((docsOf decorations).flatten ++ linesOf statements)
  | .forLoop label pattern values decorations statements =>
    Doc.filled 0
      (Form.label label ++ [.text "for "] ++ pattern.docs .inner ++
        [.text " in ", Doc.neverBreak] ++
        Form.condition values.mayBreak (values.docs .inner) ++
        Form.longBlock ((docsOf decorations).flatten ++ linesOf statements))
  | .endlessLoop label decorations statements =>
    Form.label label ++ [.text "loop \x7b"] ++
      Form.lines ((docsOf decorations).flatten ++ linesOf statements)
  | .choice value decorations arms =>
    Doc.filled 0
      ([.text "match "] ++ Form.condition value.mayBreak (value.docs .inner) ++
        Form.longBlock
          ((docsOf decorations).flatten ++ (docsOf arms).flatMap (· ++ [Doc.hardBreak])))
  | .arm pattern guard body =>
    Doc.filled 0
      (pattern.docs .inner ++ Form.prefixed " if " (docsOf? guard) ++ [.text " => "] ++
        if body.isPlainBlock then body.docs .arm
        else
          Doc.neverBreak ::
            Form.braced body.standsAsStatement body.isEffect ","
              (if body.needsComma then "," else "") (body.docs .lineStart))
  | .jump lead value => .text lead :: Form.prefixed " " (docsOf? value)
  | .letStatement pattern value otherwise =>
    let lead := .text "let " :: pattern.docs .inner
    let lead :=
      match value with
      | none => lead
      | some value => lead ++ [.text " = ", Doc.neverBreak] ++ value.docs .inner
    (match otherwise with
      | none => Doc.filled 0 lead
      | some other =>
        Doc.filled 0 (lead ++ [Doc.space, .text "else "]) ++ [Doc.neverBreak] ++
          other.docs .inner) ++ [.text ";", Doc.hardBreak]
  | .expressionStatement value terminated =>
    let line := value.docs .lineStart
    match position with
    | .statement true _ =>
      if terminated then Doc.filled 0 (line ++ statementEnd value true) ++ [Doc.hardBreak]
      else Doc.filled 0 line ++ [Doc.space]
    | _ => Doc.filled 0 (line ++ statementEnd value terminated) ++ [Doc.hardBreak]
  | .expansionStatement value terminated =>
    value.docs .inner ++
      (if closesExpansion position value terminated then [.text ";"] else []) ++ [Doc.hardBreak]
  | .emptyStatement => []
  | .named lead name inner => .text (lead ++ name) :: Form.prefixed " @ " (docsOf? inner)
  | .alternatives cases =>
    let body := Doc.interspersed [Doc.space, .text "| "] (docsOf cases)
    if cases.all isPlainPattern then Doc.filled 0 body else Doc.uniform 0 body
  | .slicePattern elements => [.text "["] ++ Doc.commaList (docsOf elements) ++ [.text "]"]
  | .tuplePattern elements comma => Form.tuplePattern comma (docsOf elements)
  | .appliedPattern applied elements =>
    applied.docs .inner ++ Doc.enclosed "(" (docsOf elements) ")"
  | .recordPattern type fields rest =>
    Form.indented
        (Doc.dedented
          (type.docs .inner ++ [.text " \x7b", Doc.innerSpace] ++
            Form.fields (docsOf fields) (docsOf? rest))) ++
      [.text "\x7d"]
  | .constantItem lead type value =>
    Doc.uniform 0
        (.text lead :: type.docs .inner ++
          (match value with
            | none => []
            | some value => [.text " = ", Doc.neverBreak] ++ value.docs .inner) ++
          [.text ";"]) ++
      [Doc.hardBreak]
  | .functionItem lead generics parameters more output predicates body =>
    let head :=
      .text lead ::
        Form.signature (docsOf generics) (docsOf parameters) (docsOf? more) (docsOf? output)
    match body with
    | some body =>
      Form.withMembers (head ++ Form.conditions false (docsOf predicates)) (body.docs .body)
    | none => Form.indented (head ++ Form.conditions true (docsOf predicates)) ++ [Doc.hardBreak]
  | .typeItem form lead generics bounds value predicates =>
    let head := .text lead :: Form.generics (docsOf generics)
    match form with
    | .bare => Doc.uniform 0 (head ++ [.text ";"]) ++ [Doc.hardBreak]
    | .early =>
      Form.indented
          (head ++ Form.sharedConditions false (docsOf predicates) ++
            Form.meaning "= " ((docsOf? value).getD []) ++ [.text ";"]) ++
        [Doc.hardBreak]
    | .late =>
      Form.indented
          (head ++ Form.bounds (.text ": ") (docsOf bounds) ++
            (match value with
              | none => []
              | some type => Form.meaning " = " (type.docs .inner)) ++
            Form.sharedConditions true (docsOf predicates)) ++
        [Doc.hardBreak]
  | .recordItem lead generics predicates members =>
    Form.withMembers
      (.text lead :: Form.generics (docsOf generics) ++ Form.conditions false (docsOf predicates))
      ((docsOf members).flatMap (· ++ [.text ",", Doc.hardBreak]))
  | .tupleItem lead generics fields predicates =>
    Form.indented
        (.text lead :: Form.generics (docsOf generics) ++ (docsOf? fields).getD [] ++
          Form.conditions true (docsOf predicates)) ++
      [Doc.hardBreak]
  | .recordFields fields =>
    [.text " \x7b"] ++
      Form.indented (Doc.dedented (Doc.space :: Doc.separated Doc.spacedComma (docsOf fields))) ++
      [.text "\x7d"]
  | .tupleFields fields => Doc.enclosed "(" (docsOf fields) ")"
  | .variant name fields value =>
    .text name :: (docsOf? fields).getD [] ++ Form.prefixed " = " (docsOf? value)
  | .fieldItem lead type => .text lead :: type.docs .inner
  | .groupItem lead generics bounds predicates decorations items =>
    Form.withMembers
      (.text lead :: Form.generics (docsOf generics) ++
        (if bounds.isEmpty then []
        else .text ": " :: Doc.interspersed [.text " + "] (docsOf bounds)) ++
        Form.conditions false (docsOf predicates))
      ((docsOf decorations).flatten ++ (docsOf items).flatten)
  | .implementationItem lead generics origin type predicates decorations items =>
    Form.withMembers
      (Doc.filled (-Doc.indentWidth)
          (Form.indented (.text lead :: Form.generics (docsOf generics)) ++ [.text " "] ++
            (match origin with
              | none => []
              | some trait => trait.docs .inner ++ [Doc.space, .text "for "]) ++
            type.docs .inner) ++
        Form.conditions false (docsOf predicates))
      ((docsOf decorations).flatten ++ (docsOf items).flatten)
  | .boundsItem lead generics bounds predicates =>
    Form.indented
        (.text lead :: Form.generics (docsOf generics) ++ [.text " = ", Doc.neverBreak] ++
          Doc.interspersed [Doc.space, .text "+ "] (docsOf bounds) ++
          Form.conditions true (docsOf predicates)) ++
      [Doc.hardBreak]
  | .useItem lead tree => .text lead :: tree.docs .inner ++ [.text ";", Doc.hardBreak]
  | .useStep name rest => .text (name ++ "::") :: rest.docs .inner
  | .useGroup trees => Form.useGroup ((trees.map endsInUseGroup).zip (docsOf trees))
  | .fixedItem text => [.text text, Doc.hardBreak]
  | .expansionItem expanded name bracket tokens =>
    Form.expansionItem expanded.definesExpansions (expanded.docs .inner) name bracket tokens

/-- The documents of each of some phrases inside another. -/
def docsOf : List Phrase → List (List Doc)
  | [] => []
  | first :: rest => first.docs .inner :: docsOf rest

/-- The documents of a phrase inside another, if there is one. -/
def docsOf? : Option Phrase → Option (List Doc)
  | none => none
  | some phrase => some (phrase.docs .inner)

/-- The documents of statements on lines of their own. -/
def linesOf : List Phrase → List Doc
  | [] => []
  | first :: rest => first.docs (.statement false rest.isEmpty) ++ linesOf rest

/-- The documents of the statements of a short block. -/
def shortLinesOf : List Phrase → List Doc
  | [] => []
  | first :: rest => first.docs (.statement rest.isEmpty rest.isEmpty) ++ linesOf rest

end

end RecordDerive.Grammar.Phrase
