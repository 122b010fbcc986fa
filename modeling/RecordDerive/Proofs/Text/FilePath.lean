import RecordDerive.Text.FilePath

/-!
# Components of joined paths

A path that ends with a name has the components of what stands before that name, and
the name.  What stands before it is where its file is, and what a path inside a directory
adds to the directory is nothing but its names.
-/

namespace RecordDerive.Text.FilePath

/-! ## Pieces -/

theorem slashPieces_nil : slashPieces [] = [[]] := rfl

theorem slashPieces_slash (rest : List Char) : slashPieces ('/' :: rest) = [] :: slashPieces rest :=
  rfl

theorem slashPieces_eq_splitOn (text : List Char) : slashPieces text = text.splitOn '/' := by
  induction text with
  | nil => rfl
  | cons first rest ih =>
      rw [List.splitOn_cons_eq_if_modifyHead, slashPieces.eq_def]
      split
      next => contradiction
      next same =>
        cases same
        simp [ih]
      next other same =>
        cases same
        rw [if_neg (by simpa using other)]
        cases pieces : slashPieces rest with
        | nil => exact absurd (ih.symm.trans pieces) (List.splitOn_ne_nil _ _)
        | cons piece pieces' => simp [← ih, pieces]

theorem slashPieces_append (before after : List Char) :
    slashPieces (before ++ '/' :: after) = slashPieces before ++ slashPieces after := by
  simp only [slashPieces_eq_splitOn, List.splitOn_append_cons_self]

theorem slashPieces_ne_nil (text : List Char) : slashPieces text ≠ [] := by
  simp [slashPieces_eq_splitOn]

theorem eq_nil_of_slashPieces {text : List Char} (blank : slashPieces text = [[]]) : text = [] := by
  have whole : ['/'].intercalate (text.splitOn '/') = text := List.intercalate_splitOn '/'
  rw [← slashPieces_eq_splitOn, blank] at whole
  exact whole.symm

theorem slashPieces_intercalate {pieces : List (List Char)} (some : pieces ≠ [])
    (unslashed : ∀ piece ∈ pieces, '/' ∉ piece) :
    slashPieces (['/'].intercalate pieces) = pieces := by
  rw [slashPieces_eq_splitOn, List.splitOn_intercalate '/' unslashed some]

theorem unslashed_of_mem_slashPieces {text piece : List Char} (member : piece ∈ slashPieces text) :
    '/' ∉ piece := by
  induction text generalizing piece with
  | nil => simp_all [slashPieces_nil]
  | cons first rest ih =>
      rw [slashPieces_eq_splitOn, List.splitOn_cons_eq_if_modifyHead, ← slashPieces_eq_splitOn]
        at member
      split at member
      next =>
        rcases List.mem_cons.mp member with rfl | later
        · exact List.not_mem_nil
        · exact ih later
      next apart =>
        cases pieces : slashPieces rest with
        | nil => exact absurd pieces (slashPieces_ne_nil rest)
        | cons start others =>
            rw [pieces, List.modifyHead_cons] at member
            rcases List.mem_cons.mp member with rfl | later
            · have unslashed : '/' ∉ start := ih (pieces ▸ List.mem_cons_self)
              have differs : '/' ≠ first := fun same => apart (by rw [same, beq_self_eq_true])
              exact List.not_mem_cons_of_ne_of_not_mem differs unslashed
            · exact ih (pieces ▸ List.mem_cons_of_mem start later)

/-! ## Components -/

/-- The components that pieces are wherever they stand. -/
def ordinary (pieces : List (List Char)) : List String :=
  (pieces.filter isOrdinary).map String.ofList

/-- The components of pieces that more pieces follow. -/
def leading : List (List Char) → List String
  | [] => []
  | first :: rest => (if first.isEmpty then "/" else String.ofList first) :: ordinary rest

theorem leading_nil : leading [] = [] := rfl

theorem leading_cons (first : List Char) (rest : List (List Char)) :
    leading (first :: rest) =
      (if first.isEmpty then "/" else String.ofList first) :: ordinary rest := rfl

theorem ordinary_append (before after : List (List Char)) :
    ordinary (before ++ after) = ordinary before ++ ordinary after := by
  simp [ordinary]

/-- An empty piece at the end is no component. -/
theorem leading_append_blank {pieces : List (List Char)} (some : pieces ≠ []) :
    leading (pieces ++ [[]]) = leading pieces := by
  cases pieces with
  | nil => contradiction
  | cons first rest =>
      rw [List.cons_append, leading_cons, leading_cons, ordinary_append]
      simp [ordinary, isOrdinary]

theorem components_of_pieces {path : FilePath} {pieces : List (List Char)}
    (split : slashPieces path.text.toList = pieces) (some : pieces ≠ [[]]) :
    path.components = leading pieces := by
  rw [components, split]
  match pieces with
  | [] => rfl
  | first :: rest =>
      cases first with
      | nil =>
          cases rest with
          | nil => contradiction
          | cons second others => rfl
      | cons start others => rfl

/-- A name that is a component wherever it stands. -/
structure Plain (name : String) : Prop where
  full : name ≠ ""
  unslashed : '/' ∉ name.toList
  unpointed : name ≠ "."

theorem Plain.toList_ne {name : String} (plain : Plain name) :
    name.toList ≠ [] ∧ name.toList ≠ ['.'] := by
  constructor
  · intro empty
    exact plain.full (String.toList_inj.mp empty)
  · intro point
    exact plain.unpointed (String.toList_inj.mp point)

theorem Plain.isOrdinary {name : String} (plain : Plain name) :
    isOrdinary name.toList = true := by
  simpa [FilePath.isOrdinary] using plain.toList_ne

theorem ordinary_names {names : List String} (plain : ∀ name ∈ names, Plain name) :
    ordinary (names.map String.toList) = names := by
  induction names with
  | nil => rfl
  | cons first rest ih =>
      obtain ⟨head, tail⟩ := List.forall_mem_cons.mp plain
      rw [ordinary, List.map_cons, List.filter_cons_of_pos head.isOrdinary, List.map_cons,
        String.ofList_toList]
      exact congrArg (first :: ·) (ih tail)

/-- Names add themselves to what they follow. -/
theorem leading_append_names (before : List (List Char)) {names : List String}
    (plain : ∀ name ∈ names, Plain name) :
    leading (before ++ names.map String.toList) = leading before ++ names := by
  match before, names with
  | [], [] => rfl
  | [], first :: rest =>
      obtain ⟨head, tail⟩ := List.forall_mem_cons.mp plain
      have full := head.full
      simp [leading_nil, leading_cons, ordinary_names tail, full]
  | first :: rest, names =>
      rw [List.cons_append, leading_cons, ordinary_append, ordinary_names plain]
      rfl

/-- A piece that is a component wherever it stands adds itself and those behind it. -/
theorem leading_append_ordinary (before : List (List Char)) {first : List Char}
    (rest : List (List Char)) (named : isOrdinary first = true) :
    leading (before ++ first :: rest) = leading before ++ ordinary (first :: rest) := by
  cases before with
  | nil =>
      have full : first.isEmpty = false := by
        rw [isOrdinary] at named
        simp_all
      simp [leading_nil, leading_cons, ordinary, named, full]
  | cons other others =>
      rw [List.cons_append, leading_cons, ordinary_append]
      rfl

/-! ## Paths that end with a name -/

section Last

variable {path : FilePath} {before : List (List Char)} {name : String}

theorem ending_of_last (split : slashPieces path.text.toList = before ++ [name.toList])
    (plain : Plain name) : path.ending = .name := by
  rw [ending, split, List.reverse_concat, endingOf, if_neg plain.toList_ne.2,
    if_pos (by simpa using plain.toList_ne.1)]

theorem components_of_last (split : slashPieces path.text.toList = before ++ [name.toList])
    (plain : Plain name) : path.components = leading before ++ [name] := by
  have names : ∀ other ∈ [name], Plain other := by
    intro other member
    rw [List.mem_singleton.mp member]
    exact plain
  have full := plain.full
  rw [components_of_pieces split]
  · exact leading_append_names before names
  · cases before with
    | nil => simpa using full
    | cons first rest => simp

theorem components_intercalate {first : List Char} {rest : List (List Char)}
    (unslashed : ∀ piece ∈ first :: rest, '/' ∉ piece) (filled : first ≠ [] ∨ rest ≠ []) :
    FilePath.components ⟨String.intercalate "/" ((first :: rest).map String.ofList)⟩ =
      leading (first :: rest) := by
  apply components_of_pieces
  · rw [String.toList_intercalate, List.map_map]
    simp only [Function.comp_def, String.toList_ofList, List.map_id']
    exact slashPieces_intercalate (List.cons_ne_nil first rest) unslashed
  · intro blank
    cases blank
    simp at filled

/-- What is dropped from the end of some pieces are no components. -/
theorem ordinary_dropWhile (reversed : List (List Char)) :
    ordinary (reversed.dropWhile (!isOrdinary ·)).reverse = ordinary reversed.reverse := by
  induction reversed with
  | nil => rfl
  | cons last before ih =>
      rw [List.dropWhile_cons]
      split
      next dropped =>
        have nothing : ordinary [last] = [] := by simpa [ordinary] using dropped
        rw [ih, List.reverse_cons, ordinary_append, nothing, List.append_nil]
      next => rfl

/-- What stands before the name that ends a path. -/
theorem parent_of_last (split : slashPieces path.text.toList = before ++ [name.toList])
    (plain : Plain name) : path.parent.components = leading before := by
  cases before with
  | nil =>
      rw [parent, split]
      rfl
  | cons first rest =>
      have found : (rest ++ [name.toList]).reverse.dropWhile (!isOrdinary ·) =
          name.toList :: rest.reverse := by
        simp [plain.isOrdinary]
      have same := ordinary_dropWhile rest.reverse
      have unslashed : ∀ piece ∈ first :: (rest.reverse.dropWhile (!isOrdinary ·)).reverse,
          '/' ∉ piece := by
        intro piece member
        apply unslashed_of_mem_slashPieces
        rw [split, List.cons_append]
        rcases List.mem_cons.mp member with rfl | kept
        · exact List.mem_cons_self
        · have kept := (List.dropWhile_sublist _).subset (List.mem_reverse.mp kept)
          exact List.mem_cons_of_mem first (List.mem_append_left _ (List.mem_reverse.mp kept))
      rw [parent, split, List.cons_append]
      dsimp only
      rw [found]
      dsimp only
      generalize (rest.reverse.dropWhile (!isOrdinary ·)).reverse = kept at same unslashed
      rw [List.reverse_reverse] at same
      rw [leading_cons, ← same]
      split
      next alone =>
        rw [Bool.and_eq_true, List.isEmpty_iff, List.isEmpty_iff] at alone
        rw [alone.1, alone.2]
        rfl
      next filled =>
        show _ = leading (first :: kept)
        apply components_intercalate unslashed
        simpa [Decidable.or_iff_not_imp_left] using filled

end Last

/-! ## Names inside a directory -/

section Join

variable {names : List String}

theorem slashPieces_ofComponents (some : names ≠ []) (plain : ∀ name ∈ names, Plain name) :
    slashPieces (ofComponents names).text.toList = names.map String.toList := by
  rw [ofComponents, String.toList_intercalate]
  apply slashPieces_intercalate
  · simpa using some
  · intro piece member
    obtain ⟨name, listed, rfl⟩ := List.mem_map.mp member
    exact (plain name listed).unslashed

theorem head?_ofComponents (some : names ≠ []) (plain : ∀ name ∈ names, Plain name) :
    (ofComponents names).text.toList.head? ≠ Option.some '/' := by
  have pieces := slashPieces_ofComponents some plain
  cases names with
  | nil => contradiction
  | cons first rest =>
      intro slash
      obtain ⟨inside, same⟩ := List.head?_eq_some_iff.mp slash
      rw [same, slashPieces_slash, List.map_cons] at pieces
      have full := (plain first List.mem_cons_self).full
      simp_all

/-- A path that does not begin with a slash stands behind the components of the directory
it is put in. -/
theorem slashPieces_join_of_relative (root : FilePath) {inside : FilePath}
    (relative : inside.text.toList.head? ≠ Option.some '/') :
    ∃ before, slashPieces (root.join inside).text.toList =
        before ++ slashPieces inside.text.toList ∧ leading before = root.components := by
  rw [join, if_neg relative]
  split
  next empty =>
    have blank : root.text = "" := String.isEmpty_iff.mp empty
    refine ⟨[], rfl, ?_⟩
    rw [components, blank]
    rfl
  next filled =>
    have some : slashPieces root.text.toList ≠ [[]] := by
      intro blank
      exact filled (String.isEmpty_iff.mpr (String.toList_inj.mp (eq_nil_of_slashPieces blank)))
    split
    next closed =>
      obtain ⟨start, same⟩ := List.getLast?_eq_some_iff.mp closed
      have split : slashPieces root.text.toList = slashPieces start ++ [[]] := by
        rw [same, slashPieces_append]
        rfl
      refine ⟨slashPieces start, ?_, ?_⟩
      · rw [String.toList_append, same, List.append_assoc, List.singleton_append,
          slashPieces_append]
      · rw [components_of_pieces split (split ▸ some),
          leading_append_blank (slashPieces_ne_nil start)]
    next opened =>
      refine ⟨slashPieces root.text.toList, ?_, (components_of_pieces rfl some).symm⟩
      simp [slashPieces_append]

/-- Names put inside a directory stand behind its components. -/
theorem slashPieces_join (root : FilePath) (some : names ≠ [])
    (plain : ∀ name ∈ names, Plain name) :
    ∃ before, slashPieces (root.join (ofComponents names)).text.toList =
        before ++ names.map String.toList ∧ leading before = root.components := by
  rw [← slashPieces_ofComponents some plain]
  exact slashPieces_join_of_relative root (head?_ofComponents some plain)

variable {directories : List String} {name : String} {root : FilePath}

theorem components_ofComponents (some : names ≠ []) (plain : ∀ name ∈ names, Plain name) :
    (ofComponents names).components = names := by
  rw [components_of_pieces (slashPieces_ofComponents some plain)]
  · exact leading_append_names [] plain
  · intro nothing
    cases names with
    | nil => contradiction
    | cons first rest =>
        have full := (plain first List.mem_cons_self).full
        simp_all

/-- A file in a directory: where it is, and how its path ends. -/
structure Inside (root : FilePath) (directories : List String) (name : String) (path : FilePath) :
    Prop where
  components : path.components = root.components ++ directories ++ [name]
  parent : path.parent.components = root.components ++ directories
  ending : path.ending = .name

theorem join_inside (root : FilePath) (plain : ∀ part ∈ directories ++ [name], Plain part) :
    Inside root directories name (root.join (ofComponents (directories ++ [name]))) := by
  obtain ⟨before, split, start⟩ := slashPieces_join root (by simp) plain
  obtain ⟨inner, last⟩ := List.forall_mem_append.mp plain
  have last := last name (List.mem_singleton.mpr rfl)
  have placed := leading_append_names before inner
  rw [start] at placed
  rw [List.map_append, ← List.append_assoc] at split
  refine ⟨?_, ?_, ending_of_last split last⟩
  · rw [components_of_last split last, placed]
  · rw [parent_of_last split last, placed]

theorem places_of_components {path : FilePath}
    (components : path.components = root.components ++ names)
    (plain : ∀ name ∈ names, Plain name) : path.places = root.places ++ names := by
  have kept : names.filter (· ≠ ".") = names :=
    List.filter_eq_self.mpr fun name member => by simpa using (plain name member).unpointed
  rw [places, places, components, List.filter_append, kept]

end Join

/-! ## Paths that go down -/

/-- A path that goes down by one name or more from wherever it starts. -/
structure Descends (path : FilePath) : Prop where
  some : path.components ≠ []
  normal : ∀ component ∈ path.components,
    component ≠ "/" ∧ component ≠ "." ∧ component ≠ ".."

namespace Descends

variable {path : FilePath}

/-- Whether a path goes down is a matter of its components. -/
theorem congr {other : FilePath} (descends : Descends path)
    (same : path.components = other.components) : Descends other where
  some := same ▸ descends.some
  normal := same ▸ descends.normal

/-- A path that goes down begins with a name. -/
theorem exists_pieces (descends : Descends path) :
    ∃ first rest, slashPieces path.text.toList = first :: rest ∧ isOrdinary first = true := by
  obtain ⟨some, normal⟩ := descends
  rw [components] at some normal
  cases pieces : slashPieces path.text.toList with
  | nil => exact absurd pieces (slashPieces_ne_nil _)
  | cons first rest =>
      refine ⟨first, rest, rfl, ?_⟩
      rw [pieces] at some normal
      dsimp only at some normal
      cases first with
      | nil =>
          cases rest with
          | nil => exact absurd rfl some
          | cons second others => exact absurd rfl (normal "/" List.mem_cons_self).1
      | cons letter letters =>
          have pointless := (normal _ List.mem_cons_self).2.1
          rw [isOrdinary]
          simpa [← String.toList_inj] using pointless

theorem relative (descends : Descends path) : path.text.toList.head? ≠ Option.some '/' := by
  obtain ⟨first, rest, pieces, named⟩ := descends.exists_pieces
  intro slash
  obtain ⟨inside, same⟩ := List.head?_eq_some_iff.mp slash
  rw [same, slashPieces_slash] at pieces
  cases pieces
  cases named

theorem components_eq (descends : Descends path) :
    path.components = ordinary (slashPieces path.text.toList) := by
  obtain ⟨first, rest, pieces, named⟩ := descends.exists_pieces
  rw [components_of_pieces rfl, pieces]
  · exact leading_append_ordinary [] rest named
  · rw [pieces]
    rintro ⟨⟩
    cases named

end Descends

/-- A path that goes down stands behind the components of the directory it is put in. -/
theorem components_join (root : FilePath) {inside : FilePath} (descends : Descends inside) :
    (root.join inside).components = root.components ++ inside.components := by
  obtain ⟨first, rest, pieces, named⟩ := descends.exists_pieces
  obtain ⟨before, split, start⟩ := slashPieces_join_of_relative root descends.relative
  rw [pieces] at split
  rw [components_of_pieces split, descends.components_eq, pieces, ← start]
  · exact leading_append_ordinary before rest named
  · intro blank
    have last : first = [] := by
      cases before with
      | nil =>
          cases blank
          rfl
      | cons other others => simp at blank
    rw [last] at named
    cases named

theorem same_join (root : FilePath) {left right : FilePath} (descends : Descends left)
    (descends' : Descends right) : (root.join left).same (root.join right) = left.same right := by
  rw [Bool.eq_iff_iff]
  simp [same, components_join root descends, components_join root descends']

/-- Paths that go down lead to different places below a directory if their components
differ. -/
theorem places_join (root : FilePath) {inside : FilePath} (descends : Descends inside) :
    (root.join inside).places = root.places ++ inside.components := by
  have kept : inside.components.filter (· ≠ ".") = inside.components :=
    List.filter_eq_self.mpr fun name member => by simpa using (descends.normal name member).2.1
  rw [places, components_join root descends, List.filter_append, kept, places]

end RecordDerive.Text.FilePath
