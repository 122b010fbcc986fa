import RecordDerive.Output.Disk

/-!
# What a file system holds after a file was stored

Storing a file makes directories of all places on the way to it and changes nothing
else.  It fails for one of two causes: something else stands at one of these places, or
the path is one that no file can have, whatever stands there.
-/

namespace RecordDerive.Output

open Text (FilePath)

/-- Whether a refusal comes of a file in the place of a directory or a directory in that
of a file. -/
def SystemFault.isClash : SystemFault → Bool
  | .exists | .notDirectory | .isDirectory => true
  | .noEntry | .nameTooLong | .endInPath | .permissionDenied => false

namespace Disk

variable {disk : Disk}

/-! ## Places -/

theorem node?_nil (disk : Disk) : disk.node? [] = some .directory := rfl

theorem lookup_cons (place other : List String) (node : Node)
    (entries : List (List String × Node)) :
    ((place, node) :: entries).lookup other =
      if other = place then some node else entries.lookup other := by
  rw [List.lookup_cons]
  by_cases same : other = place
  · rw [if_pos same, beq_iff_eq.mpr same]
  · rw [if_neg same, beq_eq_false_iff_ne.mpr same]

theorem lookup_putEntry (place other : List String) (node : Node)
    (entries : List (List String × Node)) :
    (putEntry place node entries).lookup other =
      if other = place then some node else entries.lookup other := by
  induction entries with
  | nil => rw [putEntry, lookup_cons]
  | cons entry entries ih =>
      obtain ⟨found, standing⟩ := entry
      rw [putEntry]
      by_cases here : found = place
      · rw [if_pos here, lookup_cons, lookup_cons, here]
        by_cases same : other = place <;> simp [same]
      · rw [if_neg here, lookup_cons, lookup_cons, ih]
        by_cases same : other = place
        · simp [same, Ne.symm here]
        · simp [same]

theorem node?_put {place : List String} (inside : place ≠ []) (other : List String)
    (node : Node) :
    (disk.put place node).node? other = if other = place then some node else disk.node? other := by
  rw [node?, node?, put, lookup_putEntry]
  cases other with
  | nil => simp [inside.symm]
  | cons first rest => rfl

/-! ## Directories -/

/-- No file stands on the way from one place along some names. -/
def Clear (disk : Disk) (passed names : List String) : Prop :=
  ∀ further, further ≠ [] → further <+: names → ∀ contents,
    disk.node? (passed ++ further) ≠ some (.file contents)

/-- The places along some names have become directories, and the others are what they
were. -/
structure Created (disk : Disk) (passed names : List String) (created : Disk) : Prop where
  way : ∀ further, further ≠ [] → further <+: names →
    created.node? (passed ++ further) = some .directory
  kept : ∀ place, (∀ further, further ≠ [] → further <+: names → place ≠ passed ++ further) →
    created.node? place = disk.node? place

/-- How directories come to be made, or not. -/
inductive Creation (disk : Disk) (passed names : List String) :
    Except SystemFault Unit × Disk → Prop
  | made {created : Disk} (clear : disk.Clear passed names)
      (short : ∀ name ∈ names, isTooLong name = false)
      (made : Created disk passed names created) :
      Creation disk passed names (.ok (), created)
  | tooLong {left : Disk} (long : ∃ name ∈ names, isTooLong name = true) :
      Creation disk passed names (.error .nameTooLong, left)
  | clash {fault : SystemFault} {left : Disk} (clash : fault.isClash = true)
      (blocked : ¬disk.Clear passed names) :
      Creation disk passed names (.error fault, left)

/-- What holds at all places along some names holds at the first one and along the rest. -/
theorem forall_along_cons {name : String} {rest : List String} {holds : List String → Prop} :
    (∀ further, further ≠ [] → further <+: name :: rest → holds further) ↔
      holds [name] ∧ ∀ further, further ≠ [] → further <+: rest → holds (name :: further) := by
  constructor
  · intro all
    refine ⟨all [name] (List.cons_ne_nil name []) (by simp), ?_⟩
    intro further _ along
    exact all _ (List.cons_ne_nil name further) (List.cons_prefix_cons.mpr ⟨rfl, along⟩)
  · rintro ⟨first, later⟩ (_ | ⟨head, further⟩) some along
    · contradiction
    · obtain ⟨rfl, after⟩ := List.cons_prefix_cons.mp along
      cases further with
      | nil => exact first
      | cons second others => exact later _ (List.cons_ne_nil second others) after

theorem clear_cons {passed rest : List String} {name : String} :
    disk.Clear passed (name :: rest) ↔
      (∀ contents, disk.node? (passed ++ [name]) ≠ some (.file contents)) ∧
        disk.Clear (passed ++ [name]) rest := by
  rw [Clear, forall_along_cons]
  simp only [Clear, List.append_assoc, List.singleton_append]

theorem clear_congr {next : Disk} {passed names : List String}
    (same : ∀ further, further ≠ [] →
      next.node? (passed ++ further) = disk.node? (passed ++ further)) :
    next.Clear passed names ↔ disk.Clear passed names := by
  constructor
  · intro clear further some along
    rw [← same further some]
    exact clear further some along
  · intro clear further some along
    rw [same further some]
    exact clear further some along

section First

variable {next created : Disk} {passed rest : List String} {name : String}

theorem Created.cons (standing : next.node? (passed ++ [name]) = some .directory)
    (elsewhere : ∀ place, place ≠ passed ++ [name] → next.node? place = disk.node? place)
    (made : Created next (passed ++ [name]) rest created) :
    Created disk passed (name :: rest) created where
  way := by
    refine forall_along_cons.mpr ⟨?_, ?_⟩
    · rw [made.kept]
      · exact standing
      · intro further some _ same
        exact some (List.self_eq_append_right.mp same)
    · intro further some along
      rw [List.append_cons]
      exact made.way further some along
  kept := by
    intro place off
    obtain ⟨first, later⟩ := forall_along_cons.mp off
    rw [made.kept, elsewhere place first]
    intro further some along
    rw [← List.append_cons]
    exact later further some along

/-- The first name leads to a directory, which may have been made for it. -/
theorem Creation.cons (short : isTooLong name = false)
    (unblocked : ∀ contents, disk.node? (passed ++ [name]) ≠ some (.file contents))
    (standing : next.node? (passed ++ [name]) = some .directory)
    (elsewhere : ∀ place, place ≠ passed ++ [name] → next.node? place = disk.node? place)
    {result : Except SystemFault Unit × Disk}
    (creation : Creation next (passed ++ [name]) rest result) :
    Creation disk passed (name :: rest) result := by
  -- The places along the rest are other ones than the first.
  have later : ∀ further, further ≠ [] →
      next.node? (passed ++ [name] ++ further) = disk.node? (passed ++ [name] ++ further) := by
    intro further some
    exact elsewhere _ (by simpa using some)
  have clear : disk.Clear passed (name :: rest) ↔ next.Clear (passed ++ [name]) rest := by
    rw [clear_cons, clear_congr later]
    exact and_iff_right unblocked
  cases creation with
  | made isClear shortRest made =>
      exact .made (clear.mpr isClear) (List.forall_mem_cons.mpr ⟨short, shortRest⟩)
        (made.cons standing elsewhere)
  | tooLong long =>
      obtain ⟨other, member, long⟩ := long
      exact .tooLong ⟨other, List.mem_cons_of_mem name member, long⟩
  | clash clash blocked => exact .clash clash (mt clear.mp blocked)

end First

theorem createFrom_creation (disk : Disk) (passed names : List String) :
    Creation disk passed names (disk.createFrom passed names) := by
  induction names generalizing disk passed with
  | nil =>
      refine .made ?_ (by simp) ⟨?_, fun place off => rfl⟩
      · intro further some along
        exact absurd (List.prefix_nil.mp along) some
      · intro further some along
        exact absurd (List.prefix_nil.mp along) some
  | cons name rest ih =>
      rw [createFrom]
      split
      next long => exact .tooLong ⟨name, List.mem_cons_self, long⟩
      next short =>
        rw [Bool.not_eq_true] at short
        cases standing : disk.node? (passed ++ [name]) with
        | none =>
            refine Creation.cons short ?_ ?_ ?_ (ih (disk.put _ .directory) _)
            · simp [standing]
            · simp [node?_put]
            · intro place other
              simp [node?_put, other]
        | some node =>
            cases node with
            | directory => exact Creation.cons short (by simp [standing]) standing (by simp) (ih disk _)
            | file contents =>
                refine .clash (by split <;> rfl) ?_
                intro clear
                exact clear [name] (List.cons_ne_nil name []) (by simp) contents standing

/-! ## Files -/

/-- The path of a file by the place it leads to. -/
structure LeadsTo (path : FilePath) (directories : List String) (name : String) : Prop where
  places : path.places = directories ++ [name]
  parent : path.parent.places = directories
  ending : path.ending = .name

/-- A path that a file can have, if nothing else stands in its way. -/
structure Admits (path : FilePath) : Prop where
  above : pathFault? path.parent = none
  whole : pathFault? path = none
  short : ∀ name ∈ path.places, isTooLong name = false

/-- A path for which a file is refused only where something stands in its way. -/
def RefusesOnlyClashes (path : FilePath) : Prop :=
  ∀ disk contents fault, (store disk path contents).1 = .error fault → fault.isClash = true

/-- A file stands at a place, the places on the way to it are directories, and the others
are what they were. -/
structure Stored (disk : Disk) (directories : List String) (name : String) (contents : String)
    (stored : Disk) : Prop where
  file : stored.node? (directories ++ [name]) = some (.file contents)
  way : ∀ place, place <+: directories → stored.node? place = some .directory
  kept : ∀ place, place ≠ directories ++ [name] → ¬place <+: directories →
    stored.node? place = disk.node? place

/-- Nothing stands in the way of a file. -/
structure Vacant (disk : Disk) (directories : List String) (name : String) : Prop where
  way : disk.Clear [] directories
  place : disk.node? (directories ++ [name]) ≠ some .directory

/-- How a file comes to be stored, or not. -/
inductive Storing (disk : Disk) (path : FilePath) (directories : List String) (name : String)
    (contents : String) : Except SystemFault Unit × Disk → Prop
  | stored {stored : Disk} (admits : Admits path) (vacant : disk.Vacant directories name)
      (stands : Stored disk directories name contents stored) :
      Storing disk path directories name contents (.ok (), stored)
  | impossible {fault : SystemFault} {left : Disk} (noClash : fault.isClash = false)
      (refused : ¬Admits path) : Storing disk path directories name contents (.error fault, left)
  | clash {fault : SystemFault} {left : Disk} (clash : fault.isClash = true)
      (occupied : ¬disk.Vacant directories name) :
      Storing disk path directories name contents (.error fault, left)

theorem pathFault?_eq_none {path : FilePath} : pathFault? path = none ↔
    '\x00' ∉ path.text.toList ∧ path.text.utf8ByteSize ≤ maxPathSize := by
  rw [pathFault?, String.contains_char_eq]
  by_cases ends : '\x00' ∈ path.text.toList
  · simp [ends]
  · by_cases long : maxPathSize < path.text.utf8ByteSize
    · simp [ends, long]
    · simp [ends, long, Nat.le_of_not_lt long]

theorem pathFault?_noClash {path : FilePath} {fault : SystemFault}
    (found : pathFault? path = some fault) : fault.isClash = false := by
  rw [pathFault?] at found
  repeat' split at found
  all_goals cases found
  all_goals rfl

variable {path : FilePath} {directories : List String} {name : String}

theorem not_prefix_of_length {place names : List String} (longer : names.length < place.length) :
    ¬place <+: names := fun begins => Nat.not_le.mpr longer begins.length_le

theorem LeadsTo.text_isEmpty (leads : LeadsTo path directories name) :
    path.text.isEmpty = false := by
  rw [Bool.eq_false_iff]
  intro empty
  have places := leads.places
  rw [FilePath.places, FilePath.components, String.isEmpty_iff.mp empty] at places
  simp [FilePath.slashPieces] at places

theorem writeFile_eq (leads : LeadsTo path directories name) (possible : pathFault? path = none)
    (contents : String) :
    disk.writeFile path contents =
      if disk.node? (directories ++ [name]) = some .directory then .error .isDirectory
      else if isTooLong name then .error .nameTooLong
      else .ok (disk.put (directories ++ [name]) (.file contents)) := by
  unfold writeFile
  simp only [possible, leads.text_isEmpty, leads.ending, leads.places, List.getLast?_concat,
    Option.any_some]
  cases disk.node? (directories ++ [name]) with
  | none => simp
  | some node =>
      cases node with
      | directory => simp
      | file old => simp

/-- A file is put behind the directories that were made for it. -/
theorem Created.stored {created : Disk} (made : Created disk [] directories created)
    (contents : String) :
    Stored disk directories name contents
      (created.put (directories ++ [name]) (.file contents)) where
  file := by simp [node?_put]
  way := by
    intro place along
    have apart : place ≠ directories ++ [name] := by
      rintro rfl
      exact not_prefix_of_length (by simp) along
    rw [node?_put (by simp), if_neg apart]
    by_cases outside : place = []
    · rw [outside, node?_nil]
    · exact made.way place outside along
  kept := by
    intro place apart off
    rw [node?_put (by simp), if_neg apart]
    apply made.kept
    rintro further - along rfl
    exact off along

/-- Behind directories that were made for it, a file is stored unless its own path or
name forbids it or a directory stands there. -/
theorem writeFile_storing (leads : LeadsTo path directories name)
    (above : pathFault? path.parent = none) (clear : disk.Clear [] directories)
    (short : ∀ name ∈ directories, isTooLong name = false) {created : Disk}
    (made : Created disk [] directories created) (contents : String) :
    Storing disk path directories name contents
      (match created.writeFile path contents with
        | .error fault => (.error fault, created)
        | .ok written => (.ok (), written)) := by
  have same : created.node? (directories ++ [name]) = disk.node? (directories ++ [name]) := by
    apply made.kept
    rintro further - along equal
    rw [List.nil_append] at equal
    rw [← equal] at along
    exact not_prefix_of_length (by simp) along
  cases found : pathFault? path with
  | some fault =>
      rw [writeFile, found]
      exact .impossible (pathFault?_noClash found) fun admits => by
        cases admits.whole.symm.trans found
  | none =>
      rw [writeFile_eq leads found, same]
      by_cases occupied : disk.node? (directories ++ [name]) = some .directory
      · rw [if_pos occupied]
        exact .clash rfl fun vacant => vacant.place occupied
      · rw [if_neg occupied]
        cases long : isTooLong name with
        | true =>
            refine .impossible rfl ?_
            intro admits
            have short := admits.short name (by simp [leads.places])
            cases long.symm.trans short
        | false =>
            refine .stored ⟨above, found, ?_⟩ ⟨clear, occupied⟩ (made.stored contents)
            rw [leads.places]
            exact List.forall_mem_append.mpr ⟨short, by simpa using long⟩

theorem store_storing (disk : Disk) (leads : LeadsTo path directories name) (contents : String) :
    Storing disk path directories name contents (disk.store path contents) := by
  rw [store, createDirectories]
  cases found : pathFault? path.parent with
  | some fault =>
      refine .impossible (pathFault?_noClash found) ?_
      intro admits
      cases admits.above.symm.trans found
  | none =>
      have creation := createFrom_creation disk [] path.parent.places
      rw [leads.parent] at creation ⊢
      dsimp only
      generalize disk.createFrom [] directories = result at creation
      cases creation with
      | made clear short made => exact writeFile_storing leads found clear short made contents
      | tooLong long =>
          refine .impossible rfl ?_
          intro admits
          obtain ⟨directory, member, long⟩ := long
          have short := admits.short directory (by simp [leads.places, member])
          cases long.symm.trans short
      | clash clash blocked => exact .clash clash fun vacant => blocked vacant.way

/-- A file is stored where nothing stands in its way. -/
theorem store_vacant (leads : LeadsTo path directories name) (admits : Admits path)
    (vacant : disk.Vacant directories name) (contents : String) :
    ∃ stored, disk.store path contents = (.ok (), stored) ∧
      Stored disk directories name contents stored := by
  have storing := store_storing disk leads contents
  generalize disk.store path contents = result at storing ⊢
  cases storing with
  | stored _ _ stands => exact ⟨_, rfl, stands⟩
  | impossible noClash refused => exact absurd admits refused
  | clash clash occupied => exact absurd vacant occupied

theorem vacant_empty (directories : List String) (name : String) :
    Disk.empty.Vacant directories name where
  way := by
    intro further some _ contents standing
    simp [node?, some, Disk.empty] at standing
  place := by simp [node?, Disk.empty]

/-- Only clashes make a file system refuse a file if and only if the path is one that a
file can have. -/
theorem refusesOnlyClashes_iff (leads : LeadsTo path directories name) :
    RefusesOnlyClashes path ↔ Admits path := by
  constructor
  · intro refuses
    -- In an empty file system nothing clashes.
    have storing := store_storing .empty leads ""
    have only := refuses .empty ""
    generalize Disk.empty.store path "" = result at storing only
    cases storing with
    | stored admits _ _ => exact admits
    | impossible noClash _ => cases noClash.symm.trans (only _ rfl)
    | clash _ occupied => exact absurd (vacant_empty directories name) occupied
  · intro admits disk contents fault refused
    have storing := store_storing disk leads contents
    generalize disk.store path contents = result at storing refused
    cases storing with
    | stored _ _ _ => cases refused
    | impossible _ inadmissible => exact absurd admits inadmissible
    | clash clash _ =>
        cases refused
        exact clash

end Disk

end RecordDerive.Output
