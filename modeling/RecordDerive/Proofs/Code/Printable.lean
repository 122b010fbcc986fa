import RecordDerive.Code.Render
import RecordDerive.Proofs.Layout.Printable

/-!
# Generated code has a layout

Generated code is made of forms that all have a layout, so where the phrases in it have one,
it has one as a whole: the path to the declaration, that to the runtime, and the types of
the fields.
-/

namespace RecordDerive.Code

open Grammar Layout
open Doc

/-! ## Phrases -/

theorem docs_path (position : Position) (rooted : Bool) (steps : List Phrase) :
    (Phrase.path rooted steps).docs position =
      (if rooted then [.text "::"] else []) ++
        interspersed [.text "::"] (Phrase.docsOf steps) := rfl

theorem docs_step (position : Position) (name : String) (inExpression : Bool)
    (arguments : List Phrase) :
    (Phrase.step name inExpression arguments).docs position =
      .text name :: Form.angled inExpression (Phrase.docsOf arguments) := rfl

theorem docsOf_eq_map (phrases : List Phrase) :
    Phrase.docsOf phrases = phrases.map (·.docs .inner) := by
  induction phrases with
  | nil => rfl
  | cons first rest ih =>
      show first.docs .inner :: Phrase.docsOf rest = _
      rw [ih, List.map_cons]

theorem firstUnprintableIn_path {rooted : Bool} {steps : List Phrase}
    (each : ∀ step ∈ steps, firstUnprintableIn (step.docs .inner) = none) :
    firstUnprintableIn ((Phrase.path rooted steps).docs .inner) = none := by
  have inside : firstUnprintableIn (interspersed [.text "::"] (Phrase.docsOf steps)) = none := by
    rw [firstUnprintableIn_interspersed (by simp), firstUnprintableIn_flatten_eq_none]
    simpa [docsOf_eq_map] using each
  cases rooted <;> simp [docs_path, inside]

theorem firstUnprintableIn_step {name : String} {inExpression : Bool} {arguments : List Phrase}
    (each : ∀ argument ∈ arguments, firstUnprintableIn (argument.docs .inner) = none) :
    firstUnprintableIn ((Phrase.step name inExpression arguments).docs .inner) = none := by
  have inside : firstUnprintableIn (enclosed "<" (Phrase.docsOf arguments) ">") = none := by
    rw [firstUnprintableIn_enclosed, firstUnprintableIn_flatten_eq_none]
    simpa [docsOf_eq_map] using each
  rw [docs_step, Form.angled]
  cases inExpression <;> split <;> simp [inside]

theorem firstUnprintableIn_plainPath (rooted : Bool) (names : List String) :
    firstUnprintableIn ((Phrase.plainPath rooted names).docs .inner) = none := by
  apply firstUnprintableIn_path
  intro step member
  obtain ⟨name, -, rfl⟩ := List.mem_map.mp member
  exact firstUnprintableIn_step nofun

/-! ## Places and expressions -/

@[simp] theorem firstUnprintableIn_place (place : Place) :
    firstUnprintableIn place.docs = none := by
  cases place with
  | whole parameter => simp [Place.docs]
  | member parameter name =>
      simp [Place.docs, Form.member, Form.chainHead, Form.unindented, Form.indented, zeroBreak,
        Position.isLink, Position.startsLine]

@[simp] theorem firstUnprintableIn_argument (argument : Argument) :
    firstUnprintableIn argument.docs = none := by
  cases argument <;> simp [Argument.docs]

@[simp] theorem firstUnprintableIn_operation (left : List Doc) (operator : String)
    (right : List Doc) :
    firstUnprintableIn (Form.operation left operator right) =
      (firstUnprintableIn left).or (firstUnprintableIn right) := by
  simp [Form.operation, space]

/-- The function that an expression calls, if it does. -/
def Expr.Printable : Expr → Prop
  | .call function _ => firstUnprintableIn (function.docs .inner) = none
  | .both left right => left.Printable ∧ right.Printable
  | _ => True

theorem firstUnprintableIn_expr {expr : Expr} (printable : expr.Printable) :
    firstUnprintableIn expr.docs = none := by
  induction expr with
  | truth => simp [Expr.docs]
  | number value => simp [Expr.docs]
  | text content => simp [Expr.docs]
  | texts contents =>
      have each : ∀ item ∈ contents.map fun content => [Doc.text (Text.quote content)],
          firstUnprintableIn item = none := by simp
      simp [Expr.docs, firstUnprintableIn_flatten_eq_none.mpr each]
  | equal left right => simp [Expr.docs]
  | both left right ihLeft ihRight => simp [Expr.docs, ihLeft printable.1, ihRight printable.2]
  | call function arguments =>
      have called : firstUnprintableIn (function.docs .inner) = none := printable
      have each : ∀ item ∈ arguments.map Argument.docs, firstUnprintableIn item = none := by simp
      simp [Expr.docs, called, firstUnprintableIn_flatten_eq_none.mpr each]
  | write sink template values =>
      rw [Expr.docs, firstUnprintableIn_expansionDocs]
      exact firstUnprintableIn_plainPath _ _
  | tuple elements =>
      rw [Expr.docs, firstUnprintableIn_tuple, firstUnprintableIn_flatten_eq_none]
      simp
  | record fields =>
      have each : ∀ item ∈ fields.map fieldDocs, firstUnprintableIn item = none := by
        intro item member
        obtain ⟨field, -, rfl⟩ := List.mem_map.mp member
        simp [fieldDocs]
      apply firstUnprintableIn_record (by simp)
      rw [Form.fields, firstUnprintableIn_separated (by simp [spacedComma])]
      exact firstUnprintableIn_flatten_eq_none.mpr each

/-! ## Statements and methods -/

/-- The expression of a statement has a layout. -/
def Statement.Printable : Statement → Prop
  | .discard _ => True
  | .run action => action.Printable
  | .result value => value.Printable

theorem firstUnprintableIn_statement {statement : Statement} (printable : statement.Printable) :
    firstUnprintableIn statement.docs = none := by
  cases statement with
  | discard parameter => simp [Statement.docs, Form.assignment, hardBreak, neverBreak]
  | run action =>
      have inside := firstUnprintableIn_expr printable
      simp [Statement.docs, inside, hardBreak]
  | result value =>
      have inside := firstUnprintableIn_expr printable
      simp [Statement.docs, inside, hardBreak]

/-- The type of a parameter has a layout. -/
def Parameter.Printable : Parameter → Prop
  | .receiver _ => True
  | .typed _ type => firstUnprintableIn (type.docs .inner) = none

theorem firstUnprintableIn_parameter {parameter : Parameter} (printable : parameter.Printable) :
    firstUnprintableIn parameter.docs = none := by
  cases parameter with
  | receiver borrowed => cases borrowed <;> simp [Parameter.docs]
  | typed name type =>
      have inside : firstUnprintableIn (type.docs .inner) = none := printable
      simp [Parameter.docs, inside]

/-- The phrases in a method have a layout. -/
structure Method.Printable (method : Method) : Prop where
  generics : ∀ generic ∈ method.generics, firstUnprintableIn (generic.bound.docs .inner) = none
  parameters : ∀ parameter ∈ method.parameters, parameter.Printable
  output : ∀ type ∈ method.output, firstUnprintableIn (type.docs .inner) = none
  body : ∀ statement ∈ method.body, statement.Printable

theorem firstUnprintableIn_flatMap {α : Type} {image : α → List Doc} {items : List α}
    (each : ∀ item ∈ items, firstUnprintableIn (image item) = none) :
    firstUnprintableIn (items.flatMap image) = none := by
  induction items with
  | nil => rfl
  | cons first rest ih =>
      obtain ⟨here, later⟩ := List.forall_mem_cons.mp each
      simp [here, ih later]

theorem firstUnprintableIn_signature {generics parameters : List (List Doc)}
    {output : Option (List Doc)}
    (general : ∀ generic ∈ generics, firstUnprintableIn generic = none)
    (taken : ∀ parameter ∈ parameters, firstUnprintableIn parameter = none)
    (given : ∀ type ∈ output, firstUnprintableIn type = none) :
    firstUnprintableIn (Form.signature generics parameters none output) = none := by
  have inside := firstUnprintableIn_flatten_eq_none.mpr general
  have between := firstUnprintableIn_flatten_eq_none.mpr taken
  have behind : firstUnprintableIn (Form.prefixed " -> " output) = none := by
    cases output with
    | none => rfl
    | some type => simp [Form.prefixed, given type rfl]
  have front : firstUnprintableIn (Form.generics generics) = none := by
    rw [Form.generics]
    split <;> simp [inside, zeroBreak]
  simp [Form.signature, Form.parameters, Form.unindented, front, between, behind, zeroBreak,
    neverBreak]

theorem firstUnprintableIn_method {method : Method} (printable : method.Printable) :
    firstUnprintableIn method.docs = none := by
  have general : ∀ generic ∈ method.generics.map Generic.docs,
      firstUnprintableIn generic = none := by
    intro docs member
    obtain ⟨generic, listed, rfl⟩ := List.mem_map.mp member
    simp [Generic.docs, printable.generics generic listed]
  have taken : ∀ parameter ∈ method.parameters.map Parameter.docs,
      firstUnprintableIn parameter = none := by
    intro docs member
    obtain ⟨parameter, listed, rfl⟩ := List.mem_map.mp member
    exact firstUnprintableIn_parameter (printable.parameters parameter listed)
  have given : ∀ type ∈ method.output.map (·.docs .inner), firstUnprintableIn type = none := by
    intro docs member
    obtain ⟨type, listed, rfl⟩ := Option.map_eq_some_iff.mp member
    exact printable.output type listed
  have signature := firstUnprintableIn_signature general taken given
  have body : firstUnprintableIn (method.body.flatMap Statement.docs) = none :=
    firstUnprintableIn_flatMap fun statement member =>
      firstUnprintableIn_statement (printable.body statement member)
  simp [Method.docs, signature, body]

/-! ## Implementations -/

/-- The phrases in a part of an implementation have a layout. -/
def Item.Printable : Item → Prop
  | .type _ meaning => firstUnprintableIn (meaning.docs .inner) = none
  | .constant _ domain value =>
      firstUnprintableIn (domain.docs .inner) = none ∧ value.Printable
  | .method inner => inner.Printable

theorem firstUnprintableIn_item {item : Item} (printable : item.Printable) :
    firstUnprintableIn item.docs = none := by
  cases item with
  | type name meaning =>
      have inside : firstUnprintableIn (meaning.docs .inner) = none := printable
      simp [Item.docs, Form.indented, Form.meaning, inside, neverBreak, hardBreak]
  | constant name domain value =>
      have inside := firstUnprintableIn_expr printable.2
      simp [Item.docs, printable.1, inside, neverBreak, hardBreak]
  | method inner => exact firstUnprintableIn_method printable

/-- The phrases in an implementation have a layout. -/
structure Implementation.Printable (implementation : Implementation) : Prop where
  interface : firstUnprintableIn (implementation.interface.docs .inner) = none
  subject : firstUnprintableIn (implementation.subject.docs .inner) = none
  items : ∀ item ∈ implementation.items, item.Printable

theorem firstUnprintableIn_implementation (implementation : Implementation) :
    firstUnprintableIn implementation.docs = none ↔
      firstUnprintableIn (implementation.interface.docs .inner) = none ∧
      firstUnprintableIn (implementation.subject.docs .inner) = none ∧
      firstUnprintableIn (implementation.items.flatMap Item.docs) = none := by
  simp [Implementation.docs, Form.indented, space, and_assoc]

theorem Implementation.Printable.docs {implementation : Implementation}
    (printable : implementation.Printable) : firstUnprintableIn implementation.docs = none := by
  have items : firstUnprintableIn (implementation.items.flatMap Item.docs) = none :=
    firstUnprintableIn_flatMap fun item member =>
      firstUnprintableIn_item (printable.items item member)
  exact (firstUnprintableIn_implementation implementation).mpr
    ⟨printable.interface, printable.subject, items⟩

/-! ## Derived operations -/

namespace Derive

theorem firstUnprintableIn_referenceTo {mutable : Bool} {target : Phrase}
    (printable : firstUnprintableIn (target.docs .inner) = none) :
    firstUnprintableIn ((referenceTo mutable target).docs .inner) = none := by
  have docs : (referenceTo mutable target).docs .inner =
      .text (Form.referenceLead none mutable) :: target.docs .inner := rfl
  simp [docs, printable]

theorem firstUnprintableIn_constantReference {target : Phrase}
    (printable : firstUnprintableIn (target.docs .inner) = none) :
    firstUnprintableIn ((constantReference target).docs .inner) = none := by
  have docs : (constantReference target).docs .inner =
      .text (Form.referenceLead (some "'static") false) :: target.docs .inner := rfl
  simp [docs, printable]

theorem firstUnprintableIn_formatter :
    firstUnprintableIn (formatter.docs .inner) = none := by
  apply firstUnprintableIn_path
  simp only [List.forall_mem_cons]
  refine ⟨firstUnprintableIn_step nofun, firstUnprintableIn_step nofun,
    firstUnprintableIn_step ?_, nofun⟩
  intro argument member
  rw [List.mem_singleton.mp member]
  have docs : (Phrase.lifetime "'_").docs .inner = [.text "'_"] := rfl
  simp [docs]

/-- Comparing members calls nothing. -/
theorem printable_equalityBody (parts : List Part) :
    ∀ statement ∈ equalityBody parts, statement.Printable := by
  cases parts with
  | nil => simp [equalityBody, Statement.Printable, Expr.Printable]
  | cons first rest =>
      intro statement member
      obtain rfl := List.mem_singleton.mp member
      clear member
      suffices grown : ∀ before : Expr, before.Printable →
          (rest.foldl (fun before part => .both before (agreement part)) before).Printable by
        exact grown (agreement first) trivial
      induction rest with
      | nil => exact fun before printable => printable
      | cons second rest ih =>
          intro before printable
          exact ih (.both before (agreement second)) ⟨printable, trivial⟩

theorem printable_hashBody (parts : List Part) :
    ∀ statement ∈ hashBody parts, statement.Printable := by
  intro statement member
  rw [hashBody] at member
  split at member
  next =>
    rw [List.mem_singleton.mp member]
    trivial
  next =>
    obtain ⟨part, -, rfl⟩ := List.mem_map.mp member
    exact firstUnprintableIn_plainPath true ["core", "hash", "Hash", "hash"]

theorem printable_fromTupleBody (parts : List Part) :
    ∀ statement ∈ fromTupleBody parts, statement.Printable := by
  intro statement member
  rcases List.mem_append.mp member with discarded | last
  · cases parts with
    | nil =>
        rw [List.mem_singleton.mp discarded]
        trivial
    | cons first rest => cases discarded
  · rw [List.mem_singleton.mp last]
    trivial

theorem firstUnprintableIn_texts :
    firstUnprintableIn
      ((constantReference (.slice (constantReference (ofName "str")))).docs .inner) = none := by
  apply firstUnprintableIn_constantReference
  have inside : firstUnprintableIn ((constantReference (ofName "str")).docs .inner) = none :=
    firstUnprintableIn_constantReference (firstUnprintableIn_plainPath _ _)
  have docs : (Phrase.slice (constantReference (ofName "str"))).docs .inner =
      [.text "["] ++ (constantReference (ofName "str")).docs .inner ++ [.text "]"] := rfl
  simp [docs, inside]

theorem firstUnprintableIn_tupleType {elements : List Phrase} :
    firstUnprintableIn ((Phrase.tuple elements).docs .inner) = none ↔
      ∀ element ∈ elements, firstUnprintableIn (element.docs .inner) = none := by
  have docs : (Phrase.tuple elements).docs .inner = Doc.tuple (Phrase.docsOf elements) := rfl
  rw [docs, firstUnprintableIn_tuple, firstUnprintableIn_flatten_eq_none, docsOf_eq_map,
    List.forall_mem_map]

section Operations

variable {subject : Subject} (path : firstUnprintableIn (subject.path.docs .inner) = none)

include path

theorem printable_equality : (equality subject).Printable where
  interface := firstUnprintableIn_plainPath _ _
  subject := path
  items := by
    refine List.forall_mem_singleton.mpr ⟨nofun, ?_, ?_, printable_equalityBody subject.parts⟩
    · simp only [List.forall_mem_cons]
      exact ⟨trivial, firstUnprintableIn_referenceTo (firstUnprintableIn_plainPath _ _), nofun⟩
    · intro type given
      cases given
      exact firstUnprintableIn_plainPath _ _

theorem printable_hash : (hash subject).Printable where
  interface := firstUnprintableIn_plainPath _ _
  subject := path
  items := by
    refine List.forall_mem_singleton.mpr ⟨?_, ?_, nofun, printable_hashBody subject.parts⟩
    · exact List.forall_mem_singleton.mpr (firstUnprintableIn_plainPath _ _)
    · simp only [List.forall_mem_cons]
      exact ⟨trivial, firstUnprintableIn_referenceTo (firstUnprintableIn_plainPath _ _), nofun⟩

theorem printable_display : (display subject).Printable where
  interface := firstUnprintableIn_plainPath _ _
  subject := path
  items := by
    refine List.forall_mem_singleton.mpr ⟨nofun, ?_, ?_, List.forall_mem_singleton.mpr trivial⟩
    · simp only [List.forall_mem_cons]
      exact ⟨trivial, firstUnprintableIn_referenceTo firstUnprintableIn_formatter, nofun⟩
    · intro type given
      cases given
      exact firstUnprintableIn_plainPath _ _

theorem printable_product
    (interface : firstUnprintableIn ((subject.runtime.extend "Product").docs .inner) = none)
    (parts : ∀ part ∈ subject.parts, firstUnprintableIn (part.type.docs .inner) = none) :
    (product subject).Printable where
  interface := interface
  subject := path
  items := by
    have types : firstUnprintableIn
        ((Phrase.tuple (subject.parts.map (·.type))).docs .inner) = none := by
      rw [firstUnprintableIn_tupleType]
      simpa using parts
    have own : firstUnprintableIn (ownTuple.docs .inner) = none := firstUnprintableIn_plainPath _ _
    simp only [product, List.forall_mem_cons]
    refine ⟨types, ⟨firstUnprintableIn_plainPath _ _, trivial⟩, ⟨firstUnprintableIn_texts, trivial⟩,
      ⟨firstUnprintableIn_constantReference (firstUnprintableIn_plainPath _ _), trivial⟩,
      ⟨nofun, ?_, ?_, ?_⟩, ⟨nofun, ?_, ?_, printable_fromTupleBody subject.parts⟩, nofun⟩
    · exact List.forall_mem_singleton.mpr trivial
    · intro type given
      cases given
      exact own
    · exact List.forall_mem_singleton.mpr trivial
    · exact List.forall_mem_singleton.mpr own
    · intro type given
      cases given
      exact firstUnprintableIn_plainPath _ _

end Operations

/-- The types of the fields stand in the tuple type. -/
theorem parts_of_product {subject : Subject}
    (items : firstUnprintableIn ((product subject).items.flatMap Item.docs) = none) :
    ∀ part ∈ subject.parts, firstUnprintableIn (part.type.docs .inner) = none := by
  rw [List.flatMap_def, firstUnprintableIn_flatten_eq_none, List.forall_mem_map] at items
  have tuple := items _ List.mem_cons_self
  have types : firstUnprintableIn
      ((Phrase.tuple (subject.parts.map (·.type))).docs .inner) = none := by
    simpa [Item.docs, Form.indented, Form.meaning, neverBreak, hardBreak] using tuple
  rwa [firstUnprintableIn_tupleType, List.forall_mem_map] at types

end Derive

/-- The phrases in generated code that come from outside. -/
def Operation.phrases (subject : Subject) : Operation → List Phrase
  | .equality => [subject.path]
  | .hash => [subject.path]
  | .display => [subject.path]
  | .product => subject.path :: subject.runtime.extend "Product" :: subject.parts.map (·.type)

/-- An operation has a layout where what comes from outside has one. -/
theorem firstUnprintableIn_operation_iff (operation : Operation) (subject : Subject) :
    firstUnprintableIn (operation.implementation subject).docs = none ↔
      ∀ phrase ∈ operation.phrases subject, firstUnprintableIn (phrase.docs .inner) = none := by
  constructor
  · intro printable
    obtain ⟨interface, path, items⟩ := (firstUnprintableIn_implementation _).mp printable
    cases operation with
    | equality => exact List.forall_mem_singleton.mpr path
    | hash => exact List.forall_mem_singleton.mpr path
    | display => exact List.forall_mem_singleton.mpr path
    | product =>
        simp only [Operation.phrases, List.forall_mem_cons, List.forall_mem_map]
        exact ⟨path, interface, Derive.parts_of_product items⟩
  · cases operation with
    | equality => exact fun each => (Derive.printable_equality (each _ List.mem_cons_self)).docs
    | hash => exact fun each => (Derive.printable_hash (each _ List.mem_cons_self)).docs
    | display => exact fun each => (Derive.printable_display (each _ List.mem_cons_self)).docs
    | product =>
        intro each
        simp only [Operation.phrases, List.forall_mem_cons, List.forall_mem_map] at each
        exact (Derive.printable_product each.1 each.2.1 each.2.2).docs

/-- A file has a layout where all that comes from outside has one. -/
theorem firstUnprintableIn_fileDocs_iff (subject : Subject) (selected : List Operation) :
    firstUnprintableIn (fileDocs subject selected) = none ↔
      ∀ operation ∈ selected, ∀ phrase ∈ operation.phrases subject,
        firstUnprintableIn (phrase.docs .inner) = none := by
  rw [fileDocs, List.flatMap_def, firstUnprintableIn_flatten_eq_none, List.forall_mem_map]
  simp only [firstUnprintableIn_operation_iff]

/-- The phrases that generated code refers to have a layout. -/
structure Subject.Printable (subject : Subject) : Prop where
  path : firstUnprintableIn (subject.path.docs .inner) = none
  interface : firstUnprintableIn ((subject.runtime.extend "Product").docs .inner) = none
  parts : ∀ part ∈ subject.parts, firstUnprintableIn (part.type.docs .inner) = none

/-- All operations have a layout where what they refer to has one. -/
theorem Subject.Printable.fileDocs {subject : Subject} (printable : subject.Printable)
    (selected : List Operation) : firstUnprintableIn (Code.fileDocs subject selected) = none := by
  rw [firstUnprintableIn_fileDocs_iff]
  intro operation _
  cases operation with
  | equality => simp [Operation.phrases, printable.path]
  | hash => simp [Operation.phrases, printable.path]
  | display => simp [Operation.phrases, printable.path]
  | product =>
      simpa [Operation.phrases, printable.path, printable.interface] using printable.parts

end RecordDerive.Code
