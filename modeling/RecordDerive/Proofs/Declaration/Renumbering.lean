import RecordDerive.Code.Render
import RecordDerive.Proofs.Declaration.Extractable

/-!
# Names under other numbers

Where an entry stands in a name table is of no meaning.  If every entry of a table is found in
another one, with what it refers to found there as well, then what resolves in the first
resolves to the same in the second, whatever else stands there.  That there may be more
entries, or fewer where several were the same, does not matter to the steps a climb is given:
a way up that ends passes no entry twice.
-/

namespace RecordDerive

open Metadata

namespace Metadata

/-- New numbers for the entries of a name table. -/
structure Numbering where
  string : UInt32 → UInt32
  qualified : UInt32 → UInt32

/-- An entry with its indices renumbered. -/
def QualifiedName.renumber (numbering : Numbering) (entry : QualifiedName) : QualifiedName where
  parent := entry.parent.map numbering.qualified
  short := numbering.string entry.short
  kind := entry.kind

namespace TypeRef

mutual

/-- A type with its indices renumbered. -/
def renumber (numbering : Numbering) : TypeRef → TypeRef
  | .named name arguments nullable =>
      .named (numbering.qualified name) (renumberAll numbering arguments) nullable
  | .parameter name => .parameter (numbering.string name)
  | .tuple elements => .tuple (renumberAll numbering elements)
  | .array element length => .array (element.renumber numbering) length

/-- Some types with their indices renumbered. -/
def renumberAll (numbering : Numbering) : List TypeRef → List TypeRef
  | [] => []
  | first :: rest => first.renumber numbering :: renumberAll numbering rest

end

theorem renumberAll_eq_map (numbering : Numbering) (types : List TypeRef) :
    renumberAll numbering types = types.map (renumber numbering) := by
  induction types with
  | nil => rfl
  | cons first rest ih => rw [renumberAll, List.map_cons, ih]

mutual

/-- The leftmost generic parameter stays the leftmost. -/
theorem findParameter_renumber (numbering : Numbering) : (type : TypeRef) →
    (type.renumber numbering).findParameter = type.findParameter.map numbering.string
  | .named _ arguments _ => by
      rw [renumber, findParameter, findParameter, findParameterIn_renumberAll numbering arguments]
  | .parameter _ => rfl
  | .tuple elements => by
      rw [renumber, findParameter, findParameter, findParameterIn_renumberAll numbering elements]
  | .array element _ => by
      rw [renumber, findParameter, findParameter, findParameter_renumber numbering element]

theorem findParameterIn_renumberAll (numbering : Numbering) : (types : List TypeRef) →
    findParameterIn (renumberAll numbering types) =
      (findParameterIn types).map numbering.string
  | [] => rfl
  | first :: rest => by
      rw [renumberAll, findParameterIn, findParameterIn, findParameter_renumber numbering first,
        findParameterIn_renumberAll numbering rest]
      cases first.findParameter <;> rfl

end

end TypeRef

/-- A parameter with its indices renumbered. -/
def Parameter.renumber (numbering : Numbering) (parameter : Parameter) : Parameter :=
  ⟨numbering.string parameter.name, parameter.type.renumber numbering⟩

/-- A constructor with its indices renumbered. -/
def Constructor.renumber (numbering : Numbering) (constructor : Constructor) : Constructor where
  isPrimary := constructor.isPrimary
  parameters := constructor.parameters.map (Parameter.renumber numbering)

/-- A description with its indices renumbered, for other names. -/
def Description.renumber (numbering : Numbering) (names : NameTable) (description : Description) :
    Description where
  name := numbering.qualified description.name
  kind := description.kind
  flags := description.flags
  constructors := description.constructors.map (Constructor.renumber numbering)
  names := names

theorem Description.primaryConstructor_renumber (numbering : Numbering) (names : NameTable)
    (description : Description) :
    (description.renumber numbering names).primaryConstructor =
      description.primaryConstructor.map (Constructor.renumber numbering) := by
  have marks : (fun constructor : Constructor => constructor.isPrimary) ∘
      Constructor.renumber numbering = fun constructor => constructor.isPrimary := rfl
  rw [primaryConstructor, primaryConstructor, renumber, List.find?_map, marks, List.head?_map]
  cases description.constructors.find? fun constructor => constructor.isPrimary <;> rfl

/-! ## Tables -/

namespace NameTable

variable {numbering : Numbering} {table later : NameTable}

/-- Every entry of a table is found in a later one under its new number, its own indices
renumbered.  Nothing is said of what else the later one holds, and different entries may be
found in one place. -/
structure Carries (numbering : Numbering) (table later : NameTable) : Prop where
  strings : ∀ {index : UInt32} {text : String}, table.strings[index.toNat]? = some text →
    later.strings[(numbering.string index).toNat]? = some text
  qualified : ∀ {index : UInt32} {entry : QualifiedName},
    table.qualified[index.toNat]? = some entry →
      later.qualified[(numbering.qualified index).toNat]? = some (entry.renumber numbering)

/-- That all entries are found is a matter of the positions that there are. -/
theorem carries_of_positions
    (strings : ∀ position < table.strings.length,
      later.strings[(numbering.string (UInt32.ofNat position)).toNat]? = table.strings[position]?)
    (qualified : ∀ position < table.qualified.length,
      later.qualified[(numbering.qualified (UInt32.ofNat position)).toNat]? =
        table.qualified[position]?.map (QualifiedName.renumber numbering)) :
    Carries numbering table later where
  strings := by
    intro index text found
    have there := strings index.toNat (List.getElem?_eq_some_iff.mp found).1
    rw [UInt32.ofNat_toNat] at there
    exact there.trans found
  qualified := by
    intro index entry found
    have there := qualified index.toNat (List.getElem?_eq_some_iff.mp found).1
    rw [UInt32.ofNat_toNat, found] at there
    exact there

namespace Carries

variable {index : UInt32} {levels : Nat} {type : TypeRef} {text : String}

theorem string (carries : Carries numbering table later) (found : table.string index = .ok text) :
    later.string (numbering.string index) = .ok text :=
  string_eq_ok_iff.mpr (carries.strings (string_eq_ok_iff.mp found))

/-- The way up is the same under the new numbers. -/
theorem chain (carries : Carries numbering table later) {index : Option UInt32}
    {segments : List Segment} (chain : table.Chain index segments) :
    later.Chain (index.map numbering.qualified) segments := by
  induction chain with
  | root => exact .root
  | @inside index entry text outer found spelled enclosed ih =>
      have found' := carries.qualified found
      have spelled' := carries.strings spelled
      exact @Chain.inside _ _ (entry.renumber numbering) text outer found' spelled' ih

theorem segments (carries : Carries numbering table later) {segments : List Segment}
    (resolved : table.segments index = .ok segments) :
    later.segments (numbering.qualified index) = .ok segments :=
  segments_of_chain (carries.chain (segments_eq_ok_iff.mp resolved))

theorem qualifiedName (carries : Carries numbering table later)
    (named : table.qualifiedName index = .ok text) :
    later.qualifiedName (numbering.qualified index) = .ok text := by
  obtain ⟨segments, resolved, joined⟩ := Extraction.bind_eq_ok named
  rw [NameTable.qualifiedName, carries.segments resolved]
  exact joined

end Carries

end NameTable

end Metadata

namespace Extraction

/-- Where other items have the results of the given ones, they have them all. -/
theorem mapM_map_eq_ok {ε α β γ : Type} {image : α → Except ε β} {image' : γ → Except ε β}
    {other : α → γ} {items : List α} {results : List β}
    (each : ∀ item ∈ items, ∀ result, image item = .ok result → image' (other item) = .ok result)
    (succeeded : items.mapM image = .ok results) :
    (items.map other).mapM image' = .ok results := by
  induction items generalizing results with
  | nil => exact succeeded
  | cons first rest ih =>
      obtain ⟨here, later⟩ := List.forall_mem_cons.mp each
      rw [List.mapM_cons] at succeeded
      obtain ⟨result, found, succeeded⟩ := bind_eq_ok succeeded
      obtain ⟨others, foundAll, last⟩ := bind_eq_ok succeeded
      rw [List.map_cons, List.mapM_cons, here result found, ih later foundAll]
      exact last

end Extraction

namespace Metadata.NameTable.Carries

open Extraction (bind_eq_ok mapM_map_eq_ok)

variable {numbering : Numbering} {table later : NameTable} {type : TypeRef} {text : String}

/-- A type has the same text under the new numbers. -/
theorem typeTextWithin (carries : Carries numbering table later) {levels : Nat}
    (rendered : table.typeTextWithin levels type = .ok text) :
    later.typeTextWithin levels (type.renumber numbering) = .ok text := by
  induction levels generalizing type text with
  | zero => cases rendered
  | succ levels ih =>
      have below {types : List TypeRef} {texts : List String}
          (found : types.mapM (table.typeTextWithin levels) = .ok texts) :
          (TypeRef.renumberAll numbering types).mapM (later.typeTextWithin levels) =
            .ok texts := by
        rw [TypeRef.renumberAll_eq_map]
        exact mapM_map_eq_ok (fun _ _ _ => ih) found
      cases type with
      | parameter name => exact carries.string rendered
      | named name arguments nullable =>
          obtain ⟨base, named, rendered⟩ := bind_eq_ok rendered
          obtain ⟨texts, found, last⟩ := bind_eq_ok rendered
          rw [TypeRef.renumber, NameTable.typeTextWithin, carries.qualifiedName named, below found]
          exact last
      | tuple elements =>
          obtain ⟨texts, found, last⟩ := bind_eq_ok rendered
          rw [TypeRef.renumber, NameTable.typeTextWithin, below found]
          exact last
      | array element length =>
          obtain ⟨inner, found, last⟩ := bind_eq_ok rendered
          rw [TypeRef.renumber, NameTable.typeTextWithin, ih found]
          exact last

end Metadata.NameTable.Carries

/-! ## Declarations -/

namespace Extraction

variable {H H' : Type} {numbering : Numbering} {table later : NameTable}
  {label label' declaration declaration' : String}

theorem field_renumber (carries : table.Carries numbering later) {parameter : Parameter}
    {shown : Field} (read : field label declaration table parameter = .ok shown) :
    field label' declaration' later (parameter.renumber numbering) = .ok shown := by
  obtain ⟨name, named, read⟩ := bind_eq_ok read
  have named' := carries.string (mapError_eq_ok named)
  rw [field, Parameter.renumber, named', TypeRef.findParameter_renumber]
  split at read
  next generic leftmost =>
    obtain ⟨_, -, impossible⟩ := bind_eq_ok read
    cases impossible
  next ungeneric =>
    obtain ⟨text, rendered, last⟩ := bind_eq_ok read
    have rendered' : later.typeText (parameter.type.renumber numbering) = .ok text :=
      carries.typeTextWithin (mapError_eq_ok rendered)
    rw [ungeneric, rendered']
    exact last

/-- What is read out of a description is read out of it under other numbers. -/
theorem ofDescription_renumber {description : Description} {handle : H} {handle' : H'}
    {read : Declaration H} (carries : description.names.Carries numbering later)
    (extracted : ofDescription handle label description = .ok read) :
    ofDescription handle' label' (description.renumber numbering later) =
      .ok ⟨handle', read.package, read.name, read.fields⟩ := by
  obtain ⟨name, constructor, named, isProduct, primary, fields, package, path, -⟩ :=
    ofDescription_eq_ok extracted
  obtain ⟨segments, resolved, -⟩ := bind_eq_ok named
  have resolved' := carries.segments resolved
  have isProduct' : (description.renumber numbering later).isProduct = true := isProduct
  have primary' : (description.renumber numbering later).primaryConstructor =
      some (constructor.renumber numbering) := by
    rw [Description.primaryConstructor_renumber, primary]
    rfl
  have fields' : (constructor.renumber numbering).parameters.mapM
      (field label' (Text.join (segments.map (·.text))) later) = .ok read.fields :=
    mapM_map_eq_ok (fun _ _ _ => field_renumber carries) fields
  rw [NameTable.packageOf, resolved] at package
  rw [NameTable.classPath, resolved] at path
  have packaged : NameTable.joinKind .package segments = read.package := Except.ok.inj package
  have pathed : NameTable.joinKind .type segments = read.name := Except.ok.inj path
  rw [ofDescription_of_segments resolved' isProduct' primary', ← packaged, ← pathed]
  exact congrArg (Except.map _) fields'

end Extraction

/-- How the entries of a name table are numbered, and what else it holds, is of no meaning: what
is extracted from a description is extracted from it under other numbers, with the same name and
fields, so that the same is rendered for it. -/
theorem Source.extract_renumbered {H H' : Type} {source : Source H} {source' : Source H'}
    {handle : H} {handle' : H'} {numbering : Numbering} {description : Description}
    {names : NameTable} {declaration : Declaration H}
    (carries : description.names.Carries numbering names)
    (described : source.describe handle = .ok description)
    (renumbered : source'.describe handle' = .ok (description.renumber numbering names))
    (extracted : source.extract handle = .ok declaration) :
    ∃ declaration' : Declaration H', source'.extract handle' = .ok declaration' ∧
      declaration'.handle = handle' ∧ declaration'.package = declaration.package ∧
      declaration'.name = declaration.name ∧
      declaration'.qualifiedName = declaration.qualifiedName ∧
      declaration'.fields = declaration.fields ∧
      ∀ config, Code.render declaration' config = Code.render declaration config := by
  rw [extract_of_describe described] at extracted
  refine ⟨⟨handle', declaration.package, declaration.name, declaration.fields⟩, ?_, rfl, rfl, rfl,
    rfl, rfl, fun _ => rfl⟩
  rw [extract_of_describe renumbered]
  exact Extraction.ofDescription_renumber carries extracted

/-- A nested class with a type argument, its entries carried to the far end of a table with
a circle of packages and an entry without a text. -/
theorem Source.extract_renumbered_inner :
    let description : Description :=
      ⟨2, .struct, .product, [⟨true, [⟨3, .named 4 [.named 3 [] false] true⟩]⟩],
        ⟨["geo", "Outer", "Inner", "x", "u8", "Vec"],
          [⟨none, 0, .package⟩, ⟨some 0, 1, .type⟩, ⟨some 1, 2, .type⟩, ⟨none, 4, .type⟩,
            ⟨none, 5, .type⟩]⟩⟩
    let numbering : Numbering := ⟨fun index => 6 - index, fun index => index + 3⟩
    let names : NameTable :=
      ⟨["std", "Vec", "u8", "x", "Inner", "Outer", "geo", "x"],
        [⟨some 1, 0, .package⟩, ⟨some 0, 0, .package⟩, ⟨none, 90, .type⟩, ⟨none, 6, .package⟩,
          ⟨some 3, 5, .type⟩, ⟨some 4, 4, .type⟩, ⟨none, 2, .type⟩, ⟨none, 1, .type⟩]⟩
    let source : Source Nat := .ofDescriptions fun _ => .ok description
    let source' : Source Nat := .ofDescriptions fun _ =>
      .ok (description.renumber numbering names)
    description.names.Carries numbering names ∧
      source.extract 7 = .ok ⟨7, "geo", "Outer::Inner", [⟨"x", "Option<Vec<u8>>"⟩]⟩ ∧
      ∃ declaration' : Declaration Nat, source'.extract 8 = .ok declaration' ∧
        declaration'.handle = 8 ∧ declaration'.package = "geo" ∧
        declaration'.name = "Outer::Inner" ∧
        declaration'.qualifiedName = "geo::Outer::Inner" ∧
        declaration'.fields = [⟨"x", "Option<Vec<u8>>"⟩] := by
  intro description numbering names source source'
  have carries : description.names.Carries numbering names :=
    NameTable.carries_of_positions (by decide) (by decide)
  have extracted : source.extract 7 =
      .ok ⟨7, "geo", "Outer::Inner", [⟨"x", "Option<Vec<u8>>"⟩]⟩ := by decide
  obtain ⟨declaration', found, handle, package, name, qualified, fields, -⟩ :=
    @extract_renumbered _ _ source source' 7 8 _ _ _ _ carries rfl rfl extracted
  exact ⟨carries, extracted, declaration', found, handle, package, name, qualified, fields⟩

end RecordDerive
