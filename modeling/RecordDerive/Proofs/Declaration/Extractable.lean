import RecordDerive.Proofs.Declaration.Registration
import RecordDerive.Proofs.Declaration.Rendering

/-!
# What can be extracted

A declaration is read out of a description exactly if the description is one of a product
with a name, and every parameter of its primary constructor can be a field.  Of several
parameters that cannot, the first one is reported: its leftmost generic parameter if the
names for that are there, and otherwise what is missing.
-/

namespace RecordDerive

open Metadata

namespace Metadata

/-! ## Parameters -/

/-- A parameter that a field can be read from. -/
structure Parameter.Sound (table : NameTable) (parameter : Parameter) : Prop where
  named : ∃ text, table.strings[parameter.name.toNat]? = some text
  ungeneric : parameter.type.generics = []
  shallow : parameter.type.depth ≤ TypeRef.maxDepth
  resolved : ∀ name ∈ parameter.type.classes, ∃ segments, table.Chain (some name) segments

/-- The field that shows a parameter: its name, and the text of its type. -/
structure Parameter.Shown (table : NameTable) (parameter : Parameter) (field : Field) : Prop where
  name : table.strings[parameter.name.toNat]? = some field.name
  type : table.typeText parameter.type = .ok field.type

/-- Why no field is read from a parameter of the named declaration. -/
inductive Parameter.Refused (table : NameTable) (label declaration : String)
    (parameter : Parameter) : ExtractionFault → Prop
  /-- Its type mentions a generic parameter, and both have names. -/
  | generic {field text : String} {generic : UInt32}
      (named : table.strings[parameter.name.toNat]? = some field)
      (leftmost : parameter.type.generics.head? = some generic)
      (spelled : table.strings[generic.toNat]? = some text) :
      Refused table label declaration parameter (.genericField declaration field text)
  | nameless (absent : table.strings[parameter.name.toNat]? = none) :
      Refused table label declaration parameter (.unavailable label (.unknownName parameter.name))
  | genericNameless {field : String} {generic : UInt32}
      (named : table.strings[parameter.name.toNat]? = some field)
      (leftmost : parameter.type.generics.head? = some generic)
      (absent : table.strings[generic.toNat]? = none) :
      Refused table label declaration parameter (.unavailable label (.unknownName generic))
  /-- Its type mentions none, but has no text. -/
  | typeless {field : String} {cause : Fault}
      (named : table.strings[parameter.name.toNat]? = some field)
      (ungeneric : parameter.type.generics = [])
      (unwritten : table.typeText parameter.type = .error cause) :
      Refused table label declaration parameter (.unavailable label cause)

/-- A description that a declaration can be read from. -/
structure Description.Extractable (description : Description) : Prop where
  named : ∃ segments, description.names.Chain (some description.name) segments
  product : description.flags.contains .product = true
  aggregate : description.kind.isAggregate = true
  constructed : ∃ constructor, Primary description.constructors constructor ∧
    ∀ parameter ∈ constructor.parameters, parameter.Sound description.names

end Metadata

namespace Extraction

open NameTable (string_eq_ok_iff)

variable {table : NameTable} {parameter : Parameter}

theorem exists_typeText_of_sound (sound : parameter.Sound table) :
    ∃ text, table.typeText parameter.type = .ok text := by
  refine (NameTable.exists_typeTextWithin_iff _ _).mpr ⟨sound.shallow, sound.resolved, ?_⟩
  rw [sound.ungeneric]
  exact List.forall_mem_nil _

/-- A field is read from the sound parameters, and from no others. -/
theorem field_shown_or_refused (label declaration : String) (table : NameTable)
    (parameter : Parameter) :
    (∃ shown, field label declaration table parameter = .ok shown ∧ parameter.Sound table ∧
      parameter.Shown table shown) ∨
    ∃ fault, field label declaration table parameter = .error fault ∧ ¬parameter.Sound table ∧
      parameter.Refused table label declaration fault := by
  rw [field]
  cases named : table.strings[parameter.name.toNat]? with
  | none =>
      refine .inr ⟨_, ?_, ?_, .nameless named⟩
      · rw [NameTable.string, named]
        rfl
      · intro sound
        obtain ⟨text, spelled⟩ := sound.named
        simp [named] at spelled
  | some name =>
      rw [string_eq_ok_iff.mpr named, TypeRef.findParameter_eq_head?]
      cases leftmost : parameter.type.generics.head? with
      | some generic =>
          have unsound : ¬parameter.Sound table := fun sound => by
            simp [sound.ungeneric] at leftmost
          cases spelled : table.strings[generic.toNat]? with
          | some text =>
              refine .inr ⟨_, ?_, unsound, .generic named leftmost spelled⟩
              show (resolved label (table.string generic) >>= _) = _
              rw [string_eq_ok_iff.mpr spelled]
              rfl
          | none =>
              refine .inr ⟨_, ?_, unsound, .genericNameless named leftmost spelled⟩
              show (resolved label (table.string generic) >>= _) = _
              rw [NameTable.string, spelled]
              rfl
      | none =>
          have ungeneric := List.head?_eq_none_iff.mp leftmost
          cases written : table.typeText parameter.type with
          | ok text =>
              obtain ⟨shallow, mentioned⟩ :=
                (NameTable.exists_typeTextWithin_iff _ _).mp ⟨text, written⟩
              exact .inl ⟨⟨name, text⟩, rfl, ⟨⟨name, named⟩, ungeneric, shallow, mentioned.classes⟩,
                named, written⟩
          | error cause =>
              refine .inr ⟨_, rfl, ?_, .typeless named ungeneric written⟩
              intro sound
              obtain ⟨text, found⟩ := exists_typeText_of_sound sound
              cases written.symm.trans found

/-- The first parameter without a field decides what is reported for all of them. -/
theorem mapM_field_refused (label declaration : String) {parameters : List Parameter}
    (unsound : ¬∀ parameter ∈ parameters, parameter.Sound table) :
    ∃ before parameter after fault, parameters = before ++ parameter :: after ∧
      (∀ other ∈ before, other.Sound table) ∧ ¬parameter.Sound table ∧
      parameter.Refused table label declaration fault ∧
      parameters.mapM (field label declaration table) = .error fault := by
  induction parameters with
  | nil => exact absurd (List.forall_mem_nil _) unsound
  | cons first rest ih =>
      rw [List.mapM_cons]
      rcases field_shown_or_refused label declaration table first with
        ⟨shown, read, sound, -⟩ | ⟨fault, stopped, faulty, refused⟩
      · have later : ¬∀ parameter ∈ rest, parameter.Sound table := fun each =>
          unsound (List.forall_mem_cons.mpr ⟨sound, each⟩)
        obtain ⟨before, parameter, after, fault, rfl, passed, faulty, refused, stopped⟩ := ih later
        refine ⟨first :: before, parameter, after, fault, rfl,
          List.forall_mem_cons.mpr ⟨sound, passed⟩, faulty, refused, ?_⟩
        rw [read, stopped]
        rfl
      · refine ⟨[], first, rest, fault, rfl, List.forall_mem_nil _, faulty, refused, ?_⟩
        rw [stopped]
        rfl

theorem exists_mapM_field (label declaration : String) {parameters : List Parameter}
    (sound : ∀ parameter ∈ parameters, parameter.Sound table) :
    ∃ fields, parameters.mapM (field label declaration table) = .ok fields := by
  rw [exists_mapM_iff]
  intro parameter listed
  rcases field_shown_or_refused label declaration table parameter with
    ⟨shown, read, -⟩ | ⟨_, -, faulty, -⟩
  · exact ⟨shown, read⟩
  · exact absurd (sound parameter listed) faulty

/-- Parameters that are read are sound, and the fields show them one by one. -/
theorem mapM_field_shown {label declaration : String} {parameters : List Parameter}
    {fields : List Field} (read : parameters.mapM (field label declaration table) = .ok fields) :
    List.Forall₂ (Parameter.Shown table) parameters fields ∧
      ∀ parameter ∈ parameters, parameter.Sound table := by
  have each := forall₂_of_mapM read
  clear read
  induction each with
  | nil => exact ⟨.nil, List.forall_mem_nil _⟩
  | @cons parameter shown _ _ here _ ih =>
      rcases field_shown_or_refused label declaration table parameter with
        ⟨_, read, sound, shows⟩ | ⟨_, stopped, -, -⟩
      · cases read.symm.trans here
        exact ⟨.cons shows ih.1, List.forall_mem_cons.mpr ⟨sound, ih.2⟩⟩
      · cases stopped.symm.trans here

/-! ## Descriptions -/

variable {H : Type} {handle : H} {label : String} {description : Description}

theorem exists_ofDescription_iff :
    (∃ declaration, ofDescription handle label description = .ok declaration) ↔
      description.Extractable := by
  constructor
  · rintro ⟨declaration, read⟩
    obtain ⟨name, constructor, named, isProduct, primary, fields, -⟩ := ofDescription_eq_ok read
    obtain ⟨product, aggregate⟩ := Bool.and_eq_true_iff.mp isProduct
    exact ⟨NameTable.exists_qualifiedName_iff.mp ⟨name, named⟩, product, aggregate, constructor,
      primaryConstructor_eq_some_iff.mp primary, (mapM_field_shown fields).2⟩
  · rintro ⟨⟨segments, chain⟩, product, aggregate, constructor, primary, sound⟩
    have resolved := NameTable.segments_of_chain chain
    have isProduct : description.isProduct = true := Bool.and_eq_true_iff.mpr ⟨product, aggregate⟩
    rw [ofDescription_of_segments resolved isProduct primary.primaryConstructor]
    obtain ⟨fields, read⟩ := exists_mapM_field label (Text.join (segments.map (·.text))) sound
    exact ⟨_, by rw [read]; rfl⟩

end Extraction

namespace Source

open Extraction

variable {H : Type} {source : Source H} {handle : H} {description : Description}

theorem extract_of_describe (described : source.describe handle = .ok description) :
    source.extract handle = ofDescription handle (source.label handle) description := by
  rw [Source.extract, described]
  rfl

/-- What extraction does on a handle with a description. -/
structure Decides (source : Source H) (handle : H) (description : Description) : Prop where
  accepts : (∃ declaration, source.extract handle = .ok declaration) ↔ description.Extractable
  fields : ∀ declaration, source.extract handle = .ok declaration →
    ∃ constructor, Primary description.constructors constructor ∧
      List.Forall₂ (Parameter.Shown description.names) constructor.parameters
        declaration.fields ∧
      ∀ parameter ∈ constructor.parameters, parameter.type.generics = []
  /-- Where only the parameters are at fault, the first one that is decides. -/
  refuses : ∀ segments constructor, description.names.Chain (some description.name) segments →
    description.flags.contains .product = true → description.kind.isAggregate = true →
    Primary description.constructors constructor →
    (¬∀ parameter ∈ constructor.parameters, parameter.Sound description.names) →
    ∃ before parameter after fault, constructor.parameters = before ++ parameter :: after ∧
      (∀ other ∈ before, other.Sound description.names) ∧
      ¬parameter.Sound description.names ∧
      parameter.Refused description.names (source.label handle)
        (Text.join (segments.map (·.text))) fault ∧
      source.extract handle = .error fault
  names : ∀ name, description.names.qualifiedName description.name = .ok name →
    ∃ package path, description.names.packageOf description.name = .ok package ∧
      description.names.classPath description.name = .ok path

/-- A declaration is extracted from the extractable descriptions and from no others, with the
parameters as its fields; and of several parameters that cannot be fields the first is
reported. -/
theorem extract_decides (described : source.describe handle = .ok description) :
    source.Decides handle description where
  accepts := by
    rw [extract_of_describe described]
    exact exists_ofDescription_iff
  fields := by
    intro declaration extracted
    rw [extract_of_describe described] at extracted
    obtain ⟨name, constructor, -, -, primary, read, -⟩ := ofDescription_eq_ok extracted
    obtain ⟨shown, sound⟩ := mapM_field_shown read
    exact ⟨constructor, primaryConstructor_eq_some_iff.mp primary, shown,
      fun parameter listed => (sound parameter listed).ungeneric⟩
  refuses := by
    intro segments constructor chain product aggregate primary unsound
    have resolved := NameTable.segments_of_chain chain
    have isProduct : description.isProduct = true := Bool.and_eq_true_iff.mpr ⟨product, aggregate⟩
    obtain ⟨before, parameter, after, fault, split, passed, faulty, refused, stopped⟩ :=
      mapM_field_refused (source.label handle) (Text.join (segments.map (·.text))) unsound
    refine ⟨before, parameter, after, fault, split, passed, faulty, refused, ?_⟩
    rw [extract_of_describe described,
      ofDescription_of_segments resolved isProduct primary.primaryConstructor, stopped]
    rfl
  names := by
    intro name named
    obtain ⟨segments, chain⟩ := NameTable.exists_qualifiedName_iff.mp ⟨name, named⟩
    have resolved := NameTable.segments_of_chain chain
    refine ⟨NameTable.joinKind .package segments, NameTable.joinKind .type segments, ?_, ?_⟩
    · rw [NameTable.packageOf, resolved]
      rfl
    · rw [NameTable.classPath, resolved]
      rfl

/-- A generic parameter in a type that is nested too deeply and mentions a missing class, behind
a sound parameter and before one without a name. -/
theorem extract_decides_box :
    let deep := Nat.repeat (.array · 1) 40 (.named 9 [.parameter 4, .parameter 5] false)
    let description : Description :=
      ⟨1, .struct, .product,
        [⟨false, []⟩, ⟨true, [⟨2, .named 2 [] true⟩, ⟨3, .tuple [.named 2 [] false, deep]⟩,
          ⟨9, .named 2 [] false⟩]⟩],
        ⟨["geo", "Box", "x", "y", "T", "U", "i32"],
          [⟨none, 0, .package⟩, ⟨some 0, 1, .type⟩, ⟨none, 6, .type⟩]⟩⟩
    let source : Source Nat := .ofDescriptions fun _ => .ok description
    source.describe 7 = .ok description ∧ source.Decides 7 description ∧
      source.extract 7 = .error (.genericField "geo::Box" "y" "T") := by
  intro deep description source
  exact ⟨rfl, extract_decides rfl, by decide⟩

end Source

end RecordDerive
