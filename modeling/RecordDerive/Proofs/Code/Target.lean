import Mathlib.Control.Monad.Basic
import RecordDerive.Proofs.Code.Generation
import RecordDerive.Proofs.Text.Segments

/-!
# Which declarations share a path

The path for a declaration shows the segments of its package and those of its own name, and
where the former end.  So two declarations have the same path only if they agree in both;
their qualified names then have the same segments, but agreeing qualified names may be split
at different places.
-/

namespace RecordDerive

variable {H : Type}

/-- Two declarations whose packages and names have the same segments each. -/
structure Declaration.SameSegments (first second : Declaration H) : Prop where
  package : Text.segments first.package = Text.segments second.package
  name : Text.segments first.name = Text.segments second.name

namespace Code

open Text (FilePath pieces segments)

variable {declaration other : Declaration H} {target target' : FilePath}

/-- A character that no name has. -/
theorem not_mem_of_isName {c : Char} (odd : isNameCharacter c = false) {name : String}
    (named : isName name = true) : c ∉ name.toList := by
  intro member
  have even := isNameCharacter_of_mem named member
  simp [odd] at even

/-- A character that no name has is in none of the pieces of a text whose segments are names. -/
theorem not_mem_piece {c : Char} (odd : isNameCharacter c = false) {text : String}
    (named : ∀ segment ∈ segments text, isName segment = true) {piece : List Char}
    (member : piece ∈ pieces text.toList) : c ∉ piece := by
  cases piece with
  | nil => simp
  | cons first rest =>
      have listed : String.ofList (first :: rest) ∈ segments text := by
        simp only [segments, List.mem_map]
        exact ⟨first :: rest, by simpa using member, rfl⟩
      have clean := not_mem_of_isName odd (named _ listed)
      rwa [String.toList_ofList] at clean

theorem uncoloned_of_named {name : String}
    (named : ∀ segment ∈ segments name, isName segment = true) {piece : List Char}
    (member : piece ∈ pieces name.toList) : ':' ∉ piece :=
  not_mem_piece (by decide) named member

namespace Targeted

/-- The segments of a qualified name are those of the package, and then those of the name. -/
theorem segments_qualifiedName (targeted : Targeted declaration target) :
    segments declaration.qualifiedName =
      segments declaration.package ++ segments declaration.name := by
  rw [Declaration.qualifiedName, Text.qualify]
  split
  next outside =>
    have blank : declaration.package = "" := String.isEmpty_iff.mp outside
    simp [blank, segments, pieces]
  next inside =>
    have split : (declaration.package ++ Text.separator ++ declaration.name).toList =
        declaration.package.toList ++ ':' :: ':' :: declaration.name.toList := by
      simp [Text.separator]
    have apart := Text.pieces_append
      (fun piece member => uncoloned_of_named targeted.package member) declaration.name.toList
    rw [segments, split, apart, List.filter_append, List.map_append]
    rfl

/-- A name that leads to a path does not begin with a colon, unless a separator is in it. -/
theorem head?_name (targeted : Targeted declaration target)
    (unsplit : Text.splitLast declaration.name = none) :
    declaration.name.toList.head? ≠ some ':' := by
  intro colon
  rw [Text.splitLast, Option.map_eq_none_iff] at unsplit
  have unseparated : ¬[':', ':'] <:+: declaration.name.toList := by
    intro inside
    have turned : [':', ':'] <:+: declaration.name.toList.reverse := by
      simpa using List.reverse_infix.mpr inside
    exact Text.unseparated_of_splitReversed unsplit turned
  have only := Text.pieces_of_unseparated unseparated
  have clean : ':' ∉ declaration.name.toList :=
    uncoloned_of_named targeted.name (by rw [only]; exact List.mem_singleton.mpr rfl)
  exact clean (List.mem_of_head? colon)

/-- What follows the last separator of a qualified name follows that of the name, too. -/
theorem lastSegment_qualifiedName (targeted : Targeted declaration target) :
    Text.lastSegment declaration.qualifiedName = Text.lastSegment declaration.name :=
  Text.lastSegment_qualify targeted.head?_name

/-- What a name that leads to a path ends with has only characters of names, and colons. -/
theorem not_mem_lastSegment (targeted : Targeted declaration target) {c : Char}
    (odd : isNameCharacter c = false) (apart : c ≠ ':') :
    c ∉ (Text.lastSegment declaration.name).toList := by
  intro member
  rcases Text.mem_pieces (Text.mem_of_mem_lastSegment member) with colon | ⟨piece, listed, inside⟩
  · exact apart colon
  · exact not_mem_piece odd targeted.name listed inside

/-- A qualified name that leads to a path has only characters of names, and colons. -/
theorem not_mem_qualifiedName (targeted : Targeted declaration target) {c : Char}
    (odd : isNameCharacter c = false) (apart : c ≠ ':') : c ∉ declaration.qualifiedName.toList := by
  have named : ∀ segment ∈ segments declaration.qualifiedName, isName segment = true := by
    rw [targeted.segments_qualifiedName]
    exact List.forall_mem_append.mpr ⟨targeted.package, targeted.name⟩
  intro member
  rcases Text.mem_pieces member with colon | ⟨piece, listed, inside⟩
  · exact apart colon
  · exact not_mem_piece odd named listed inside

theorem components (targeted : Targeted declaration target) :
    target.components = segments declaration.package ++
      [String.intercalate nestedSeparator (segments declaration.name) ++ "." ++ extension] := by
  rw [targeted.path]
  apply FilePath.components_ofComponents
  · simp
  · intro part member
    rcases List.mem_append.mp member with directory | file
    · exact plain_of_isName (targeted.package part directory)
    · rw [List.mem_singleton.mp file]
      exact plain_stem targeted.name

end Targeted

/-! ## Reading paths -/

/-- The segments of a package and of a name as a path shows them: the directories, and what
points part in the name of the file, but for the extension. -/
def segmentsOf (target : FilePath) : List String × List String :=
  (target.components.dropLast,
    ((target.components.getLast?.getD "").toList.splitOn '.').dropLast.map String.ofList)

/-- Names are read off the file that they make up, as there are no points in them. -/
theorem splitOn_stem {names : List String} (some : names ≠ [])
    (named : ∀ name ∈ names, isName name = true) :
    (String.intercalate nestedSeparator names ++ "." ++ extension).toList.splitOn '.' =
      names.map String.toList ++ [extension.toList] := by
  have unpointed : ∀ letters ∈ names.map String.toList, '.' ∉ letters := by
    intro letters member
    obtain ⟨name, listed, rfl⟩ := List.mem_map.mp member
    exact unpointed_of_isName (named name listed)
  have stem : (String.intercalate nestedSeparator names).toList.splitOn '.' =
      names.map String.toList := by
    rw [String.toList_intercalate]
    exact List.splitOn_intercalate '.' unpointed (by simpa using some)
  have whole : (String.intercalate nestedSeparator names ++ "." ++ extension).toList =
      (String.intercalate nestedSeparator names).toList ++ '.' :: extension.toList := by
    simp
  rw [whole, List.splitOn_append_cons_self, stem]
  rfl

/-- The path for a declaration shows the segments of its package and those of its name. -/
theorem Targeted.segmentsOf_eq (targeted : Targeted declaration target) :
    segmentsOf target = (segments declaration.package, segments declaration.name) := by
  rw [segmentsOf, targeted.components, List.dropLast_concat, List.getLast?_concat,
    Option.getD_some, splitOn_stem targeted.named targeted.name, List.dropLast_concat]
  simp

theorem Targeted.same_iff_segments {O : Type} {other : Declaration O}
    (targeted : Targeted declaration target) (targeted' : Targeted other target') :
    target.same target' = true ↔ segments declaration.package = segments other.package ∧
      segments declaration.name = segments other.name := by
  rw [FilePath.same, beq_iff_eq]
  constructor
  · intro same
    have shown : segmentsOf target = segmentsOf target' := by rw [segmentsOf, segmentsOf, same]
    rw [targeted.segmentsOf_eq, targeted'.segmentsOf_eq] at shown
    exact Prod.mk.inj shown
  · rintro ⟨package, name⟩
    rw [targeted.components, targeted'.components, package, name]

/-- Two declarations share a path exactly if their segments are the same. -/
theorem Targeted.same_iff (targeted : Targeted declaration target)
    (targeted' : Targeted other target') :
    target.same target' = true ↔ declaration.SameSegments other := by
  rw [targeted.same_iff_segments targeted']
  exact ⟨fun ⟨package, name⟩ => ⟨package, name⟩, fun ⟨package, name⟩ => ⟨package, name⟩⟩

/-- Paths are the same exactly where the segments of the packages are and those of the names
are; and both can be read off a path. -/
theorem targetOf_same_iff {O : Type} {first : Declaration H} {second : Declaration O}
    (found : targetOf first = .ok target) (found' : targetOf second = .ok target') :
    (target.same target' = true ↔ segments first.package = segments second.package ∧
      segments first.name = segments second.name) ∧
    segmentsOf target = (segments first.package, segments first.name) :=
  ⟨(targetOf_eq_ok found).same_iff_segments (targetOf_eq_ok found'),
    (targetOf_eq_ok found).segmentsOf_eq⟩

/-- Two nested declarations, one of which would have the path of the other with another border
between package and name. -/
theorem targetOf_same_iff_headers :
    let first : Declaration Nat := ⟨0, "net", "Outer::HTTP_Header", []⟩
    let second : Declaration String := ⟨"1", "net::::Outer", "::HTTP_Header", []⟩
    let target : FilePath := ⟨"net/Outer.HTTP_Header.rs"⟩
    let target' : FilePath := ⟨"net/Outer/HTTP_Header.rs"⟩
    targetOf first = .ok target ∧ targetOf second = .ok target' ∧
      (target.same target' = true ↔ segments first.package = segments second.package ∧
        segments first.name = segments second.name) ∧
      segmentsOf target = (segments first.package, segments first.name) := by
  intro first second target target'
  have found : targetOf first = .ok target := by decide
  have found' : targetOf second = .ok target' := by decide
  exact ⟨found, found', targetOf_same_iff found found'⟩

end Code

end RecordDerive
