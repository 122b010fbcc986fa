import RecordDerive.Code.Body
import RecordDerive.Layout.Phrases
import RecordDerive.Text.Escape

/-!
# Laying out generated code

Each form of generated code as a document.  Implementations and methods always
take several lines; their parts stay on one line each if they fit.
-/

namespace RecordDerive.Code

open Layout Grammar

/-- The path of the expansion that fills a template. -/
def writePath : Phrase := Phrase.plainPath true ["core", "write"]

namespace Member

/-- The token of a member. -/
def token : Member → Token
  | .named name => .word name
  | .position index => .literal (toString index.toNat)

end Member

namespace Place

/-- The document of a place.  A member may go to a line of its own. -/
def docs : Place → List Doc
  | .whole parameter => [.text parameter]
  | .member parameter name =>
    Form.member .inner false (Form.chainHead false [.text parameter]) [.text name.text]

/-- The tokens of a place. -/
def tokens : Place → List Token
  | .whole parameter => [.word parameter]
  | .member parameter name => [.word parameter, .mark '.' false, name.token]

end Place

/-- The document of an argument. -/
def Argument.docs : Argument → List Doc
  | .value place => place.docs
  | .borrowed place => .text "&" :: place.docs

/-- The tokens that a template is written with. -/
def writeTokens (sink : String) (template : Template) (values : List Place) : List Token :=
  [.word sink, .mark ',' false, .literal (Text.quote template.text)] ++
    values.flatMap fun value => .mark ',' false :: value.tokens

/-- The document of a field of a record. -/
def fieldDocs (field : Member × Place) : List Doc :=
  .text (field.1.text ++ ": ") :: Doc.filled 0 field.2.docs

/-- The document of an expression. -/
def Expr.docs : Expr → List Doc
  | .truth => [.text "true"]
  | .number value => [.text (toString value)]
  | .text content => [.text (Text.quote content)]
  | .texts contents =>
    .text "&" :: Doc.enclosed "[" (contents.map fun content => [.text (Text.quote content)]) "]"
  | .equal left right => Form.operation left.docs "==" right.docs
  | .both left right => Form.operation left.docs "&&" right.docs
  | .call function arguments =>
    function.docs .inner ++ Doc.enclosed "(" (arguments.map Argument.docs) ")"
  | .write sink template values =>
    expansionDocs (writePath.docs .inner) .round (writeTokens sink template values)
  | .tuple elements => Doc.tuple (elements.map Place.docs)
  | .record fields => Doc.record [.text "Self"] (Form.fields (fields.map fieldDocs) none)

/-- The document of a statement, with the end of its line. -/
def Statement.docs : Statement → List Doc
  | .discard parameter =>
    Form.assignment [.text "let _"] [.text parameter] ++ [.text ";", Doc.hardBreak]
  | .run action => Doc.filled 0 (action.docs ++ [.text ";"]) ++ [Doc.hardBreak]
  | .result value => Doc.filled 0 value.docs ++ [Doc.hardBreak]

/-- The document of a parameter. -/
def Parameter.docs : Parameter → List Doc
  | .receiver true => [.text "&self"]
  | .receiver false => [.text "self"]
  | .typed name type => .text (name ++ ": ") :: type.docs .inner

/-- The document of a generic type. -/
def Generic.docs (generic : Generic) : List Doc :=
  .text generic.name :: Doc.filled Doc.indentWidth (.text ": " :: generic.bound.docs .inner)

/-- The document of a method. -/
def Method.docs (method : Method) : List Doc :=
  Form.withMembers
    (.text ("fn " ++ method.name) ::
      Form.signature (method.generics.map Generic.docs) (method.parameters.map Parameter.docs) none
        (method.output.map (·.docs .inner)) ++
      [.text " "])
    (method.body.flatMap Statement.docs)

/-- The document of a part of an implementation. -/
def Item.docs : Item → List Doc
  | .type name meaning =>
    Form.indented
        (.text ("type " ++ name) :: Form.meaning " = " (meaning.docs .inner) ++ [.text ";"]) ++
      [Doc.hardBreak]
  | .constant name domain value =>
    Doc.uniform 0
        (.text ("const " ++ name ++ ": ") :: domain.docs .inner ++ [.text " = ", Doc.neverBreak] ++
          value.docs ++ [.text ";"]) ++
      [Doc.hardBreak]
  | .method inner => inner.docs

/-- The document of an implementation, with the end of its last line. -/
def Implementation.docs (implementation : Implementation) : List Doc :=
  Form.withMembers
    (Doc.filled (-Doc.indentWidth)
        (Form.indented [.text "impl"] ++ [.text " "] ++ implementation.interface.docs .inner ++
          [Doc.space, .text "for "] ++ implementation.subject.docs .inner) ++
      [.text " "])
    (implementation.items.flatMap Item.docs)

end RecordDerive.Code
