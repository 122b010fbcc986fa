import RecordDerive.Proofs.Code.Printable
import RecordDerive.Proofs.Code.Promises
import RecordDerive.Proofs.Layout.Lines

/-!
# Operations are rendered on their own

The implementations of all selected operations are read, checked and laid out together, in one
order whatever the order they are asked for in.  None of them depends on the others: what is
wrong with a list of operations is wrong with one of them alone, and the text of the list is the
texts of its operations one after the other.
-/

namespace RecordDerive

namespace Config

/-- A configuration with other operations. -/
def withOperations (config : Config) (operations : List Code.Operation) : Config :=
  { config with operations }

/-- A configuration for one operation. -/
def only (config : Config) (operation : Code.Operation) : Config :=
  config.withOperations [operation]

/-- Configurations that differ only in the output root and in the order and multiplicity of the
operations. -/
structure Agrees (config other : Config) : Prop where
  runtimePath : config.runtimePath = other.runtimePath
  rootPath : config.rootPath = other.rootPath
  header : config.header = other.header
  operations : ∀ operation, operation ∈ config.operations ↔ operation ∈ other.operations

variable {config other : Config}

theorem mem_selected {operation : Code.Operation} :
    operation ∈ config.selected ↔ operation ∈ config.operations := by
  have listed : operation ∈ Code.Operation.all := by cases operation <;> decide
  simp [selected, derives, listed]

theorem selected_only (config : Config) (operation : Code.Operation) :
    (config.only operation).selected = [operation] := by
  cases operation <;> rfl

theorem Agrees.selected (agrees : config.Agrees other) : config.selected = other.selected := by
  apply List.filter_congr
  intro operation _
  rw [derives, derives, Bool.eq_iff_iff, List.contains_iff_mem, List.contains_iff_mem]
  exact agrees.operations operation

end Config

namespace Code

open Extraction (bind_eq_ok mapError_eq_ok toOption_map_eq_some)
open Layout (OwnLines layout)

/-! ## Implementations are on lines of their own -/

section Lines

theorem exists_docs_item (item : Item) : ∃ front, item.docs = front ++ [Layout.Doc.hardBreak] := by
  cases item with
  | type name meaning => exact ⟨_, rfl⟩
  | constant name domain value => exact ⟨_, rfl⟩
  | method method => exact Layout.exists_withMembers _ _

theorem exists_docs_items {items : List Item} (full : items ≠ []) :
    ∃ front, items.flatMap Item.docs = front ++ [Layout.Doc.hardBreak] := by
  obtain ⟨front, last⟩ := exists_docs_item (items.getLast full)
  refine ⟨items.dropLast.flatMap Item.docs ++ front, ?_⟩
  rw [List.append_assoc, ← last, ← List.flatMap_singleton Item.docs, ← List.flatMap_append,
    List.dropLast_append_getLast]

theorem ownLines_implementation {implementation : Implementation}
    (full : implementation.items ≠ []) : OwnLines implementation.docs := by
  obtain ⟨front, members⟩ := exists_docs_items full
  rw [Implementation.docs, members]
  exact Layout.ownLines_withMembers _ front

theorem ownLines_operation (subject : Subject) (operation : Operation) :
    OwnLines (operation.implementation subject).docs := by
  apply ownLines_implementation
  cases operation <;> exact List.cons_ne_nil _ _

end Lines

/-! ## Texts of files -/

/-- An operation can be rendered for a subject: its parts can stand where they are put. -/
structure Operation.Fits (subject : Subject) (operation : Operation) : Prop where
  early : hasLatePart subject [operation] = false
  sound : fileFault subject [operation] = none
  printable : Layout.Doc.firstUnprintableIn (operation.implementation subject).docs = none

section Texts

variable {subject : Subject} {selected : List Operation} {text : String}

theorem hasLatePart_eq_false_iff :
    hasLatePart subject selected = false ↔
      ∀ operation ∈ selected, hasLatePart subject [operation] = false := by
  simp only [hasLatePart, Bool.and_eq_false_iff, List.contains_eq_mem, decide_eq_false_iff_not,
    List.mem_singleton]
  constructor
  · rintro (absent | few) operation listed
    · exact .inl fun same => absurd (same ▸ listed) absent
    · exact .inr few
  · intro each
    by_cases listed : .product ∈ selected
    · exact .inr ((each .product listed).resolve_left (by simp))
    · exact .inl listed

theorem fileFault_eq_none :
    fileFault subject selected = none ↔ selected = [] ∨ isPathOnly subject.path = false ∧
      (.product ∈ selected → isPathOnly subject.runtime = false ∧
        subject.parts.head?.any (·.type.beginsWithLifetime) = false) := by
  rw [fileFault, List.contains_eq_mem]
  split_ifs with empty misplaced late <;> grind

theorem fileFault_eq_none_iff :
    fileFault subject selected = none ↔
      ∀ operation ∈ selected, fileFault subject [operation] = none := by
  simp only [fileFault_eq_none, List.cons_ne_nil, false_or, List.mem_singleton]
  constructor
  · rintro (rfl | ⟨path, product⟩) operation listed
    · cases listed
    · exact ⟨path, fun same => product (same ▸ listed)⟩
  · intro each
    cases selected with
    | nil => exact .inl rfl
    | cons first rest =>
        refine .inr ⟨(each first List.mem_cons_self).1, ?_⟩
        intro listed
        exact (each .product listed).2 rfl

/-- Nothing is wrong with some operations together that is not wrong with one of them, and their
text is their texts one after the other. -/
theorem fileText_joins :
    fileText subject selected = .ok text ↔ (∀ operation ∈ selected, operation.Fits subject) ∧
      text = String.join
        (selected.map fun operation => layout (operation.implementation subject).docs) := by
  have printable : Layout.Doc.firstUnprintableIn (fileDocs subject selected) = none ↔
      ∀ operation ∈ selected,
        Layout.Doc.firstUnprintableIn (operation.implementation subject).docs = none := by
    rw [fileDocs, List.flatMap_def, Layout.Doc.firstUnprintableIn_flatten_eq_none,
      List.forall_mem_map]
  have joined : layout (fileDocs subject selected) = _ :=
    Layout.layout_flatMap fun operation _ => ownLines_operation subject operation
  rw [fileText_eq_ok_iff, hasLatePart_eq_false_iff, fileFault_eq_none_iff, printable, joined]
  constructor
  · rintro ⟨early, sound, printable, laid⟩
    exact ⟨fun operation listed =>
      ⟨early operation listed, sound operation listed, printable operation listed⟩, laid⟩
  · rintro ⟨fits, laid⟩
    exact ⟨fun operation listed => (fits operation listed).early,
      fun operation listed => (fits operation listed).sound,
      fun operation listed => (fits operation listed).printable, laid⟩

theorem fileText_singleton {operation : Operation} :
    fileText subject [operation] = .ok text ↔
      operation.Fits subject ∧ text = layout (operation.implementation subject).docs := by
  rw [fileText_joins, List.forall_mem_singleton, List.map_singleton, String.join_cons,
    String.join_nil, String.append_empty]

end Texts

/-! ## Files -/

section Files

variable {H : Type} {declaration : Declaration H} {config other : Config} {file : Artifact}

theorem render_of_agrees (declaration : Declaration H) (agrees : config.Agrees other) :
    render declaration other = render declaration config := by
  have same := agrees.selected
  rw [render, render, renderParts, renderParts, subjectOf, subjectOf, same, agrees.runtimePath,
    agrees.rootPath, agrees.header]

/-- A declaration is rendered without a header if it is read, its operations have a text, and
there is a path for it. -/
theorem render_eq_ok_iff (headless : config.header = false) :
    render declaration config = .ok file ↔ ∃ subject,
      subjectOf declaration config = .ok subject ∧
      fileText subject config.selected = .ok file.contents ∧
      targetOf declaration = .ok file.target := by
  constructor
  · intro rendered
    obtain ⟨subject, found, rendered⟩ := bind_eq_ok (mapError_eq_ok rendered)
    obtain ⟨body, written, rendered⟩ := bind_eq_ok rendered
    obtain ⟨target, placed, rendered⟩ := bind_eq_ok rendered
    cases rendered
    refine ⟨subject, found, ?_, mapError_eq_ok placed⟩
    rw [headless]
    simpa using written
  · rintro ⟨subject, found, written, placed⟩
    rw [render, renderParts, found]
    simp only [bind, Except.bind, written, placed, headless]
    simp [Except.mapError, pure, Except.pure]

theorem render_only_eq_ok_iff (headless : config.header = false) {operation : Operation} :
    render declaration (config.only operation) = .ok file ↔ ∃ subject,
      subjectOf declaration config = .ok subject ∧ operation.Fits subject ∧
      file.contents = layout (operation.implementation subject).docs ∧
      targetOf declaration = .ok file.target := by
  have headless : (config.only operation).header = false := headless
  have same : subjectOf declaration (config.only operation) = subjectOf declaration config := rfl
  simp only [render_eq_ok_iff headless, same, Config.selected_only, fileText_singleton, and_assoc]

/-- The file for some operations, without a header, is made of the files for each of them alone:
the list is rendered if each of its operations is, and its contents are theirs one after the
other, once for each operation and in the order of all operations. -/
structure Composes (declaration : Declaration H) (config : Config) : Prop where
  joins : ∀ pieces : Operation → Artifact, config.operations ≠ [] →
    (∀ operation ∈ config.operations,
      render declaration (config.only operation) = .ok (pieces operation)) →
    ∃ target, render declaration config = .ok ⟨target, String.join
        (config.selected.map fun operation => (pieces operation).contents)⟩ ∧
      ∀ operation ∈ config.operations, (pieces operation).target = target
  divides : ∀ file, render declaration config = .ok file → ∀ operation ∈ config.operations,
    ∃ piece, render declaration (config.only operation) = .ok piece ∧ piece.target = file.target
  empty : config.operations = [] → ∀ file, render declaration config = .ok file →
    file.contents = ""
  base : ∀ operation piece, render declaration (config.only operation) = .ok piece →
    render declaration (config.withOperations []) = .ok ⟨piece.target, ""⟩

theorem render_composes (declaration : Declaration H) (headless : config.header = false) :
    Composes declaration config := by
  refine ⟨?joins, ?divides, ?empty, ?base⟩
  case joins =>
    intro pieces some alone
    obtain ⟨first, listed⟩ := List.exists_mem_of_ne_nil _ some
    obtain ⟨subject, found, -, -, placed⟩ :=
      (render_only_eq_ok_iff headless).mp (alone first listed)
    have each (operation : Operation) (listed : operation ∈ config.operations) :
        operation.Fits subject ∧
          (pieces operation).contents = layout (operation.implementation subject).docs ∧
          (pieces operation).target = (pieces first).target := by
      obtain ⟨subject', found', fits, contents, placed'⟩ :=
        (render_only_eq_ok_iff headless).mp (alone operation listed)
      cases found.symm.trans found'
      exact ⟨fits, contents, Except.ok.inj (placed'.symm.trans placed)⟩
    refine ⟨(pieces first).target, ?_, fun operation listed => (each operation listed).2.2⟩
    refine (render_eq_ok_iff headless).mpr ⟨subject, found, fileText_joins.mpr ⟨?_, ?_⟩, placed⟩
    · intro operation chosen
      exact (each operation (Config.mem_selected.mp chosen)).1
    · apply congrArg String.join
      apply List.map_congr_left
      intro operation chosen
      exact (each operation (Config.mem_selected.mp chosen)).2.1
  case divides =>
    intro file rendered operation listed
    obtain ⟨subject, found, written, placed⟩ := (render_eq_ok_iff headless).mp rendered
    have fits := (fileText_joins.mp written).1 operation (Config.mem_selected.mpr listed)
    refine ⟨⟨file.target, layout (operation.implementation subject).docs⟩, ?_, rfl⟩
    exact (render_only_eq_ok_iff headless).mpr ⟨subject, found, fits, rfl, placed⟩
  case empty =>
    intro nothing file rendered
    obtain ⟨subject, -, written, -⟩ := (render_eq_ok_iff headless).mp rendered
    have none : config.selected = [] := by
      apply List.eq_nil_iff_forall_not_mem.mpr
      intro operation chosen
      have listed := Config.mem_selected.mp chosen
      rw [nothing] at listed
      cases listed
    rw [none] at written
    exact (fileText_joins.mp written).2
  case base =>
    intro operation piece rendered
    obtain ⟨subject, found, -, -, placed⟩ := (render_only_eq_ok_iff headless).mp rendered
    have bare : (config.withOperations []).header = false := headless
    refine (render_eq_ok_iff bare).mpr ⟨subject, found, fileText_joins.mpr ⟨?_, rfl⟩, placed⟩
    intro operation chosen
    cases Config.mem_selected.mp chosen

/-- What is rendered depends neither on the output root nor on the order and multiplicity of the
operations; and the contents without a header are those of each operation alone, put together in
the order of all operations. -/
theorem render_operations (declaration : Declaration H) (config : Config) :
    (∀ other, config.Agrees other → render declaration other = render declaration config) ∧
      (config.header = false → Composes declaration config) :=
  ⟨fun _ agrees => render_of_agrees declaration agrees, render_composes declaration⟩

/-- A segment with names so long that its fields are compared and listed on several lines, for
two operations that are asked for in the other order and one of them twice. -/
theorem render_operations_segment :
    let declaration : Declaration Nat := ⟨0, "geo", "Segment",
      [⟨"first_horizontal_position", "f64"⟩, ⟨"first_vertical_position", "f64"⟩,
        ⟨"second_horizontal_position", "f64"⟩, ⟨"second_vertical_position", "f64"⟩]⟩
    let config : Config := { operations := [.product, .equality, .product], header := false }
    let other : Config :=
      { outputRoot := ⟨"elsewhere"⟩, operations := [.equality, .product], header := false }
    ∃ equality product, render declaration (config.only .equality) = .ok equality ∧
      render declaration (config.only .product) = .ok product ∧
      render declaration config = .ok ⟨product.target, equality.contents ++ product.contents⟩ ∧
      render declaration other = render declaration config := by
  intro declaration config other
  have first : (render declaration (config.only .equality)).toOption.map (fun _ => ()) =
      some () := by decide +kernel
  have second : (render declaration (config.only .product)).toOption.map (fun _ => ()) =
      some () := by decide +kernel
  obtain ⟨equality, rendered, -⟩ := toOption_map_eq_some first
  obtain ⟨product, rendered', -⟩ := toOption_map_eq_some second
  obtain ⟨unordered, composed⟩ := render_operations declaration config
  have agrees : config.Agrees other := by
    refine ⟨rfl, rfl, rfl, fun operation => ?_⟩
    cases operation <;> decide
  let pieces : Operation → Artifact := fun operation =>
    if operation = .equality then equality else product
  have alone : ∀ operation ∈ config.operations,
      render declaration (config.only operation) = .ok (pieces operation) := by
    intro operation listed
    have known : operation = .equality ∨ operation = .product := by
      revert listed
      cases operation <;> decide
    rcases known with rfl | rfl
    · exact rendered
    · exact rendered'
  obtain ⟨target, joined, same⟩ := (composed rfl).joins pieces (List.cons_ne_nil _ _) alone
  have place : product.target = target := same .product List.mem_cons_self
  refine ⟨equality, product, rendered, rendered', ?_, unordered other agrees⟩
  rw [joined, place]
  have chosen : config.selected = [.equality, .product] := rfl
  rw [chosen]
  simp [pieces]

end Files

end Code

end RecordDerive
