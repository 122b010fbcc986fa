import RecordDerive.Proofs.Code.Target

/-!
# Paths of generated files stay in their directory

Names come from metadata that is not trusted.  A segment that is used for a path is a name,
so it goes neither up nor to the top and stays one component; and points, which separate the
segments in a file's name, are in no directory's.  So wherever the root of the generated
files leads, their paths lead down from there, and none of them is on the way to another.
-/

namespace RecordDerive

namespace Text.FilePath

/-! ## Where paths lead -/

/-- The place that a component leads to from a place, links between places apart. -/
def advance (place : List String) (component : String) : List String :=
  if component = "/" then []
  else if component = "." then place
  else if component = ".." then place.dropLast
  else place ++ [component]

/-- The place that a path leads to from a place. -/
def destination (start : List String) (path : FilePath) : List String :=
  path.components.foldl advance start

/-- Whether a path names a directory on the way to the other, and not the same place. -/
def Above (upper lower : FilePath) : Prop :=
  upper.components <+: lower.components ∧ upper.components ≠ lower.components

/-- Components that neither go up nor to the top lead to themselves, below where they start. -/
theorem foldl_advance_of_normal {components : List String}
    (normal : ∀ component ∈ components,
      component ≠ "/" ∧ component ≠ "." ∧ component ≠ "..") (start : List String) :
    components.foldl advance start = start ++ components := by
  induction components generalizing start with
  | nil => exact (List.append_nil start).symm
  | cons first rest ih =>
      obtain ⟨⟨rooted, here, up⟩, later⟩ := List.forall_mem_cons.mp normal
      rw [List.foldl_cons, advance, if_neg rooted, if_neg here, if_neg up, ih later,
        List.append_cons start first rest]

/-- A path that goes down leads down from wherever its directory leads. -/
theorem destination_join (root : FilePath) {inside : FilePath} (descends : inside.Descends)
    (start : List String) :
    (root.join inside).destination start = root.destination start ++ inside.components := by
  rw [destination, components_join root descends, List.foldl_append,
    foldl_advance_of_normal descends.normal, destination]

theorem above_join (root : FilePath) {inside : FilePath} (descends : inside.Descends) :
    root.Above (root.join inside) := by
  rw [Above, components_join root descends]
  exact ⟨List.prefix_append _ _, fun same => descends.some (List.self_eq_append_right.mp same)⟩

end Text.FilePath

namespace Code

open Text (FilePath)
open Text.FilePath (Above Plain)

variable {H : Type} {declaration : Declaration H} {target : FilePath}

/-- A path that stays below whatever it is joined to. -/
structure Contained (target : FilePath) : Prop where
  relative : target.text.toList.head? ≠ some '/'
  some : target.components ≠ []
  spelled : target = .ofComponents target.components
  named : ∀ component ∈ target.components,
    component ≠ "" ∧ component ≠ "." ∧ component ≠ ".." ∧
      '/' ∉ component.toList ∧ '\\' ∉ component.toList
  below : ∀ root : FilePath, root.Above (root.join target)
  leads : ∀ (root : FilePath) start,
    (root.join target).destination start = root.destination start ++ target.components

namespace Targeted

/-- The components of a path are made of the characters of names, and points in the last one. -/
theorem mem_component (targeted : Targeted declaration target) {component : String}
    (listed : component ∈ target.components) {c : Char} (member : c ∈ component.toList) :
    isNameCharacter c = true ∨ c = '.' := by
  rw [targeted.components] at listed
  rcases List.mem_append.mp listed with directory | file
  · exact .inl (isNameCharacter_of_mem (targeted.package component directory) member)
  · rw [List.mem_singleton.mp file] at member
    simp only [String.toList_append, List.mem_append] at member
    rcases member with (inside | point) | last
    · rcases mem_intercalate inside with between | ⟨name, found, within⟩
      · exact .inr (by simpa [nestedSeparator] using between)
      · exact .inl (isNameCharacter_of_mem (targeted.name name found) within)
    · exact .inr (by simpa using point)
    · have letter : c = 'r' ∨ c = 's' := by simpa [extension] using last
      rcases letter with rfl | rfl
      · exact .inl (by decide)
      · exact .inl (by decide)

theorem not_mem_component (targeted : Targeted declaration target) {component : String}
    (listed : component ∈ target.components) {c : Char} (odd : isNameCharacter c = false)
    (apart : c ≠ '.') : c ∉ component.toList := by
  intro member
  rcases targeted.mem_component listed member with named | point
  · simp [odd] at named
  · exact apart point

/-- A directory's name has no point, and the name of a file has its extension. -/
theorem component_ne_parent (targeted : Targeted declaration target) {component : String}
    (listed : component ∈ target.components) : component ≠ ".." := by
  rintro rfl
  rw [targeted.components] at listed
  rcases List.mem_append.mp listed with directory | file
  · exact unpointed_of_isName (targeted.package ".." directory) (by decide)
  · have same := List.mem_singleton.mp file
    have extended : 's' ∈ "..".toList := by
      rw [same, String.toList_append]
      exact List.mem_append_right _ (by decide)
    exact absurd extended (by decide)

end Targeted

theorem contained_of_targetOf (found : targetOf declaration = .ok target) : Contained target := by
  have targeted := targetOf_eq_ok found
  obtain ⟨directories, file, placed⟩ := targetOf_placed found
  have plain : ∀ component ∈ target.components, Plain component :=
    placed.components ▸ placed.plain
  have descends : target.Descends := by
    constructor
    · simp [placed.components]
    · intro component listed
      refine ⟨?_, (plain component listed).unpointed, targeted.component_ne_parent listed⟩
      rintro rfl
      exact (plain "/" listed).unslashed (by decide)
  exact {
    relative := descends.relative
    some := descends.some
    spelled := by rw [placed.components, placed.path]
    named := fun component listed =>
      ⟨(plain component listed).full, (plain component listed).unpointed,
        targeted.component_ne_parent listed, (plain component listed).unslashed,
        targeted.not_mem_component listed (by decide) (by decide)⟩
    below := fun root => FilePath.above_join root descends
    leads := fun root start => FilePath.destination_join root descends start }

/-- Of the paths for two declarations none is on the way to the other. -/
theorem Placed.not_above {first second : FilePath} {directories directories' : List String}
    {file file' : String} (placed : Placed first directories file)
    (placed' : Placed second directories' file') : ¬Above first second :=
  fun ⟨before, differs⟩ => differs (placed.eq_of_begins placed' before)

/-- The path for a declaration leads down from its directory, wherever that is, by names alone;
and of the paths for two declarations neither is a directory on the way to the other. -/
theorem targetOf_contained (found : targetOf declaration = .ok target) :
    Contained target ∧ ∀ {O : Type} (other : Declaration O) (target' : FilePath),
      targetOf other = .ok target' → ¬Above target target' ∧ ¬Above target' target := by
  refine ⟨contained_of_targetOf found, ?_⟩
  intro O other target' found'
  obtain ⟨directories, file, placed⟩ := targetOf_placed found
  obtain ⟨directories', file', placed'⟩ := targetOf_placed found'
  exact ⟨placed.not_above placed', placed'.not_above placed⟩

/-- A nested declaration, in a package with separators to spare, beside one whose package is
what the other is nested in. -/
theorem targetOf_contained_header :
    let first : Declaration Nat := ⟨0, "::net", "Outer::HTTP_Header", []⟩
    let second : Declaration String := ⟨"1", "net::::Outer", "HTTP_Header", []⟩
    let target : FilePath := ⟨"net/Outer.HTTP_Header.rs"⟩
    let target' : FilePath := ⟨"net/Outer/HTTP_Header.rs"⟩
    let root : FilePath := ⟨"../out/"⟩
    targetOf first = .ok target ∧ targetOf second = .ok target' ∧ Contained target ∧
      ¬Above target target' ∧ ¬Above target' target ∧
      (root.join target).destination ["srv", "build"] =
        ["srv", "out", "net", "Outer.HTTP_Header.rs"] := by
  intro first second target target' root
  have found : targetOf first = .ok target := by decide
  have found' : targetOf second = .ok target' := by decide
  obtain ⟨contained, apart⟩ := targetOf_contained found
  obtain ⟨before, after⟩ := apart second target' found'
  have leads := contained.leads root ["srv", "build"]
  exact ⟨found, found', contained, before, after, leads.trans (by decide)⟩

end Code

end RecordDerive
