import RecordDerive.Proofs.Declaration.Extractable
import RecordDerive.Proofs.Metadata.Balance
import RecordDerive.Proofs.Metadata.Reencoding

/-!
# Types that are too deep

Reading and rendering follow the same number of levels of a type.  A type that nests deeper
is refused by both for its depth, and any other one by neither.  So what was read from bytes
is never too deep to be rendered, and extraction from a registry, which holds bytes, does not
meet that fault.
-/

namespace RecordDerive

open Metadata

namespace Metadata

/-- Whether a cause is that a name does not resolve. -/
def Fault.isUnresolved : Fault → Bool
  | .unknownName _ | .cyclicName _ => true
  | .unreadable _ | .badMagic | .trailingBytes _ | .incompatibleVersion .. | .typeTooDeep _
  | .missing _ => false

/-! ## Rendering -/

namespace NameTable

open Extraction (bind_eq_error mapM_eq_error)

variable {table : NameTable} {index : UInt32} {fault : Fault}

theorem string_eq_error (failed : table.string index = .error fault) :
    fault.isUnresolved = true ∧ table.strings[index.toNat]? = none := by
  rw [string] at failed
  split at failed
  next => cases failed
  next absent =>
    cases failed
    exact ⟨rfl, absent⟩

theorem segments_eq_error (failed : table.segments index = .error fault) :
    fault.isUnresolved = true ∧ ¬∃ segments, table.Chain (some index) segments := by
  have unchained : ¬∃ segments, table.Chain (some index) segments := by
    rintro ⟨segments, chain⟩
    cases (segments_of_chain chain).symm.trans failed
  refine ⟨?_, unchained⟩
  rcases table.chain_or_breaks_or_endless index with chained | ⟨missing, breaks⟩ | endless
  · exact absurd chained unchained
  · cases (segments_of_breaks breaks).symm.trans failed
    rfl
  · cases (segments_of_endless endless).symm.trans failed
    rfl

/-- A part of a name is missing only where the name does not resolve. -/
theorem segments_bind_eq_error {α : Type} {part : List Segment → α}
    (failed : (table.segments index >>= fun segments => pure (part segments)) = .error fault) :
    fault.isUnresolved = true ∧ ¬∃ segments, table.Chain (some index) segments := by
  rcases bind_eq_error failed with unresolved | ⟨segments, -, last⟩
  · exact segments_eq_error unresolved
  · cases last

/-- A type has no text because it is nested too deeply or because something in it has no name. -/
theorem typeTextWithin_eq_error {levels : Nat} {type : TypeRef}
    (failed : table.typeTextWithin levels type = .error fault) :
    fault = .typeTooDeep TypeRef.maxDepth ∧ levels < type.depth ∨
      fault.isUnresolved = true ∧ ¬table.Names type := by
  induction levels generalizing type with
  | zero =>
      cases failed
      exact .inl ⟨rfl, type.depth_pos⟩
  | succ levels ih =>
      -- The fault of a list of types is that of one of them.
      have below {types : List TypeRef}
          (failed : types.mapM (table.typeTextWithin levels) = .error fault) :
          fault = .typeTooDeep TypeRef.maxDepth ∧ levels < TypeRef.depthOf types ∨
            fault.isUnresolved = true ∧ ¬∀ type ∈ types, table.Names type := by
        obtain ⟨type, listed, failed⟩ := mapM_eq_error failed
        refine (ih failed).imp (And.imp_right ?_) (And.imp_right ?_)
        · intro deep
          rw [← Nat.not_le, TypeRef.depthOf_le_iff]
          exact fun shallow => Nat.not_le.mpr deep (shallow type listed)
        · exact fun unnamed each => unnamed (each type listed)
      cases type with
      | parameter name =>
          obtain ⟨unresolved, absent⟩ := string_eq_error failed
          rw [names_parameter, absent]
          exact .inr ⟨unresolved, by simp⟩
      | named name arguments nullable =>
          rw [names_named, TypeRef.depth, Nat.succ_lt_succ_iff]
          rcases bind_eq_error failed with unnamed | ⟨base, -, failed⟩
          · obtain ⟨unresolved, unchained⟩ := segments_bind_eq_error unnamed
            exact .inr ⟨unresolved, fun named => unchained named.1⟩
          · rcases bind_eq_error failed with listed | ⟨texts, -, last⟩
            · exact (below listed).imp_right (And.imp_right fun unnamed named => unnamed named.2)
            · cases last
      | tuple elements =>
          rw [names_tuple, TypeRef.depth, Nat.succ_lt_succ_iff]
          rcases bind_eq_error failed with listed | ⟨texts, -, last⟩
          · exact below listed
          · cases last
      | array element length =>
          rw [names_array, TypeRef.depth, Nat.succ_lt_succ_iff]
          rcases bind_eq_error failed with inner | ⟨text, -, last⟩
          · exact ih inner
          · cases last

theorem typeText_ne_tooDeep {type : TypeRef} (shallow : type.depth ≤ TypeRef.maxDepth)
    (limit : Nat) : table.typeText type ≠ .error (.typeTooDeep limit) := by
  intro failed
  rcases typeTextWithin_eq_error failed with ⟨-, deep⟩ | ⟨unresolved, -⟩
  · exact Nat.not_le.mpr deep shallow
  · cases unresolved

/-- Where everything has a name, the only fault of a type is its depth. -/
theorem typeText_eq_tooDeep_iff {type : TypeRef} (named : table.Names type) :
    table.typeText type = .error (.typeTooDeep TypeRef.maxDepth) ↔
      TypeRef.maxDepth < type.depth := by
  constructor
  · intro failed
    by_contra shallow
    exact typeText_ne_tooDeep (Nat.not_lt.mp shallow) _ failed
  · intro deep
    cases rendered : table.typeText type with
    | ok text =>
        have shallow := ((exists_typeTextWithin_iff _ _).mp ⟨text, rendered⟩).1
        exact absurd deep (Nat.not_lt.mpr shallow)
    | error fault =>
        rcases typeTextWithin_eq_error rendered with ⟨rfl, -⟩ | ⟨-, unnamed⟩
        · rfl
        · exact absurd named unnamed

end NameTable

/-! ## Reading -/

section Reading

open Wire

variable {type : TypeRef}

theorem TypeRef.run_write (within : Charge.peak 0 type.charges ≤ claimLimit)
    (shallow : type.depth ≤ TypeRef.maxDepth) : TypeRef.read.run type.write = .ok (type, []) := by
  have reads := TypeRef.reads type TypeRef.maxDepth (TypeRef.write_length_lt_bound within)
  have read := reads.accepts [] 0 shallow within
  rw [List.append_nil] at read
  simp [Reader.run, StateT.run, TypeRef.read, read, Except.map]

/-- Where the limit is kept, the only fault of the bytes of a type is its depth. -/
theorem TypeRef.run_write_eq_nestedTooDeeply_iff
    (within : Charge.peak 0 type.charges ≤ claimLimit) :
    TypeRef.read.run type.write = .error .nestedTooDeeply ↔ TypeRef.maxDepth < type.depth := by
  constructor
  · intro refused
    by_contra shallow
    rw [TypeRef.run_write within (Nat.not_lt.mp shallow)] at refused
    cases refused
  · intro deep
    have reads := TypeRef.reads type TypeRef.maxDepth (TypeRef.write_length_lt_bound within)
    have exceeded : ¬(type.depth ≤ TypeRef.maxDepth ∧ Charge.peak 0 type.charges ≤ claimLimit) :=
      fun kept => Nat.not_le.mpr deep kept.1
    have stopped := reads.refuses [] 0 (Nat.zero_le _) exceeded
    rw [List.append_nil] at stopped
    rcases stopped with ⟨above, -⟩ | ⟨-, stopped⟩
    · exact absurd within (Nat.not_le.mpr above)
    · simp [Reader.run, StateT.run, TypeRef.read, stopped, Except.map]

end Reading

/-- The types of a description that is read nest within the levels that are followed. -/
theorem Description.shallow_of_decode {bytes : List UInt8} {description : Description}
    (decoded : Description.decode bytes = .ok description) : description.Shallow := by
  obtain ⟨envelope, -, read⟩ := Description.decode_eq_ok decoded
  exact (readExactly_eq_ok Description.accounts read).1

theorem readExactly_ne_typeTooDeep {α : Type} (reader : Wire.Reader α) (bytes : List UInt8)
    (limit : Nat) : readExactly reader bytes ≠ .error (.typeTooDeep limit) := by
  rw [readExactly]
  split <;> simp

theorem Description.decode_ne_typeTooDeep (bytes : List UInt8) (limit : Nat) :
    Description.decode bytes ≠ .error (.typeTooDeep limit) := by
  intro failed
  rcases Extraction.bind_eq_error failed with unopened | ⟨envelope, -, failed⟩
  · exact readExactly_ne_typeTooDeep _ _ _ unopened
  · split at failed
    next foreign => cases failed
    next marked =>
      split at failed
      next readable => exact readExactly_ne_typeTooDeep _ _ _ failed
      next incompatible => cases failed

end Metadata

/-! ## Extraction -/

theorem Primary.mem {constructors : List Constructor} {constructor : Constructor}
    (primary : Primary constructors constructor) : constructor ∈ constructors := by
  cases primary with
  | marked passed mark => exact List.mem_append_right _ List.mem_cons_self
  | first unmarked => exact List.mem_cons_self

namespace Extraction

variable {H : Type} {handle : H} {label declaration name : String} {cause : Fault}

theorem resolved_eq_unavailable {α : Type} {result : Except Fault α}
    (failed : resolved label result = .error (.unavailable name cause)) :
    result = .error cause := by
  obtain ⟨found, rfl, same⟩ := mapError_eq_error failed
  cases same
  rfl

/-- A parameter that cannot be read has a name that does not resolve, or too deep a type. -/
theorem field_eq_unavailable {table : NameTable} {parameter : Parameter}
    (failed : field label declaration table parameter = .error (.unavailable name cause)) :
    cause.isUnresolved = true ∨ TypeRef.maxDepth < parameter.type.depth := by
  rcases field_shown_or_refused label declaration table parameter with
    ⟨shown, read, -⟩ | ⟨fault, stopped, -, refused⟩
  · cases read.symm.trans failed
  · cases stopped.symm.trans failed
    cases refused with
    | nameless absent => exact .inl rfl
    | genericNameless named leftmost absent => exact .inl rfl
    | typeless named ungeneric unwritten =>
        rcases NameTable.typeTextWithin_eq_error unwritten with ⟨-, deep⟩ | ⟨unresolved, -⟩
        · exact .inr deep
        · exact .inl unresolved

/-- From a description without deep types, only names that do not resolve cannot be read. -/
theorem ofDescription_eq_unavailable {description : Description} (shallow : description.Shallow)
    (failed : ofDescription handle label description = .error (.unavailable name cause)) :
    cause.isUnresolved = true := by
  rcases bind_eq_error failed with unnamed | ⟨_, -, failed⟩
  · exact (NameTable.segments_bind_eq_error (resolved_eq_unavailable unnamed)).1
  split at failed
  next constructor isProduct primary =>
    rcases bind_eq_error failed with unread | ⟨fields, -, failed⟩
    · obtain ⟨parameter, listed, unread⟩ := mapM_eq_error unread
      rcases field_eq_unavailable unread with unresolved | deep
      · exact unresolved
      · have member := (primaryConstructor_eq_some_iff.mp primary).mem
        exact absurd (shallow constructor member parameter listed) (Nat.not_le.mpr deep)
    · rcases bind_eq_error failed with unpacked | ⟨package, -, failed⟩
      · exact (NameTable.segments_bind_eq_error (resolved_eq_unavailable unpacked)).1
      · rcases bind_eq_error failed with unclassed | ⟨path, -, last⟩
        · exact (NameTable.segments_bind_eq_error (resolved_eq_unavailable unclassed)).1
        · cases last
  next other => cases failed

end Extraction

/-- What a registry describes is read from the bytes it holds. -/
theorem Registry.missing_or_decoded (registry : Registry) (id : DeclarationId) :
    (∃ text, registry.describe id = .error (.missing text)) ∨
      ∃ bytes, registry.describe id = Description.decode bytes := by
  rw [Registry.describe]
  split
  next => exact .inl ⟨_, rfl⟩
  next => exact .inl ⟨_, rfl⟩
  next label bytes held => exact .inr ⟨bytes, rfl⟩

/-- What a registry holds is never too deep to be rendered once it is read. -/
theorem Registry.extract_ne_typeTooDeep (registry : Registry) (id : DeclarationId) (name : String)
    (limit : Nat) :
    registry.source.extract id ≠ .error (.unavailable name (.typeTooDeep limit)) := by
  intro failed
  rcases Extraction.bind_eq_error failed with undescribed | ⟨description, described, failed⟩
  · have fault : registry.describe id = _ := Extraction.resolved_eq_unavailable undescribed
    rcases registry.missing_or_decoded id with ⟨text, missing⟩ | ⟨bytes, decoded⟩
    · cases missing.symm.trans fault
    · exact Description.decode_ne_typeTooDeep bytes limit (decoded.symm.trans fault)
  · have found : registry.describe id = _ := Extraction.mapError_eq_ok described
    rcases registry.missing_or_decoded id with ⟨text, missing⟩ | ⟨bytes, decoded⟩
    · cases missing.symm.trans found
    · have shallow := Description.shallow_of_decode (decoded.symm.trans found)
      cases Extraction.ofDescription_eq_unavailable shallow failed

/-- Of the types that may be claimed and have all their names, those that nest too deeply are the
same for reading and for rendering: each refuses just these for their depth, and both take all
others.  So no type in a description that was read is too deep to be rendered, and no registry
reports one that is. -/
theorem Metadata.TypeRef.tooDeep_alike (type : TypeRef) (table : NameTable)
    (within : Wire.Charge.peak 0 type.charges ≤ Wire.claimLimit) (named : table.Names type) :
    ((TypeRef.read.run type.write = .error .nestedTooDeeply ↔ TypeRef.maxDepth < type.depth) ∧
      (table.typeText type = .error (.typeTooDeep TypeRef.maxDepth) ↔
        TypeRef.maxDepth < type.depth) ∧
      (type.depth ≤ TypeRef.maxDepth → TypeRef.read.run type.write = .ok (type, []) ∧
        ∃ text, table.typeText type = .ok text)) ∧
    (∀ bytes description, Description.decode bytes = .ok description →
      ∀ constructor ∈ description.constructors, ∀ parameter ∈ constructor.parameters,
        ∀ limit, description.names.typeText parameter.type ≠ .error (.typeTooDeep limit)) ∧
    ∀ (registry : Registry) id name limit,
      registry.source.extract id ≠ .error (.unavailable name (.typeTooDeep limit)) := by
  refine ⟨⟨TypeRef.run_write_eq_nestedTooDeeply_iff within, NameTable.typeText_eq_tooDeep_iff named,
    ?_⟩, ?_, Registry.extract_ne_typeTooDeep⟩
  · intro shallow
    exact ⟨TypeRef.run_write within shallow,
      (NameTable.exists_typeTextWithin_iff _ _).mpr ⟨shallow, named⟩⟩
  · intro bytes description decoded constructor listed parameter taken limit
    exact NameTable.typeText_ne_tooDeep
      (Description.shallow_of_decode decoded constructor listed parameter taken) limit

/-- An array of arrays, and so on, of one level more than is followed. -/
theorem Metadata.TypeRef.tooDeep_alike_arrays :
    let deep : TypeRef := Nat.repeat (.array · 1) 32 (.ofClass 0)
    let table : NameTable := ⟨["u8"], [⟨none, 0, .type⟩]⟩
    Wire.Charge.peak 0 deep.charges ≤ Wire.claimLimit ∧ table.Names deep ∧ deep.depth = 33 ∧
      TypeRef.read.run deep.write = .error .nestedTooDeeply ∧
      table.typeText deep = .error (.typeTooDeep 32) := by
  intro deep table
  have within : Wire.Charge.peak 0 deep.charges ≤ Wire.claimLimit := by decide +kernel
  have levels : deep.depth = 33 := by decide
  have resolved : table.segments 0 = .ok [⟨.type, "u8"⟩] := by decide
  have classes : deep.classes = [0] := by decide
  have generics : deep.generics = [] := by decide
  have named : table.Names deep := by
    constructor
    · rw [classes, List.forall_mem_singleton]
      exact ⟨_, NameTable.segments_eq_ok_iff.mp resolved⟩
    · rw [generics]
      exact List.forall_mem_nil _
  obtain ⟨⟨reading, rendering, -⟩, -⟩ := TypeRef.tooDeep_alike deep table within named
  have above : TypeRef.maxDepth < deep.depth := by decide
  exact ⟨within, named, levels, reading.mpr above, rendering.mpr above⟩

end RecordDerive
