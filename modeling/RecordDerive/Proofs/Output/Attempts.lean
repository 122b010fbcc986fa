import Mathlib.Data.List.Induction
import RecordDerive.Proofs.Output.Contents
import RecordDerive.Proofs.Output.Delivery

/-!
# What was accepted stays

A writer may be asked to go on after it has refused a file.  Whatever was accepted before
stays as it was first written: a refusal leaves directories behind at most, the same
contents are accepted again without being written, and other contents are a conflict.  As
long as the file system refuses nothing, a writer below a root answers as a memory does,
and has accepted the same files.
-/

namespace RecordDerive.Output

open Code (Artifact)
open Text (FilePath)

/-! ## Histories -/

/-- Files that a writer was asked to write, each with the answer. -/
abbrev History := List (Artifact × Except WriteFault FilePath)

namespace History

/-- The files that were accepted. -/
def accepted (history : History) : List Artifact :=
  history.filterMap fun entry => entry.2.toOption.map fun _ => entry.1

/-- The contents that were accepted first for a path. -/
def first? (history : History) (path : FilePath) : Option String :=
  (history.accepted.find? (·.target.same path)).map (·.contents)

variable {history : History} {file : Artifact}

@[simp] theorem accepted_concat_ok (history : History) (file : Artifact) (path : FilePath) :
    accepted (history ++ [(file, .ok path)]) = history.accepted ++ [file] := by
  simp [accepted, Except.toOption]

@[simp] theorem accepted_concat_error (history : History) (file : Artifact) (fault : WriteFault) :
    accepted (history ++ [(file, .error fault)]) = history.accepted := by
  simp [accepted, Except.toOption]

@[simp] theorem first?_concat_error (history : History) (file : Artifact) (fault : WriteFault) :
    first? (history ++ [(file, .error fault)]) = history.first? := by
  funext path
  rw [first?, accepted_concat_error, first?]

/-- A file that is accepted is the first for its path, unless there was one before. -/
theorem first?_concat_ok (history : History) (file : Artifact) (path answer : FilePath) :
    first? (history ++ [(file, .ok answer)]) path =
      (history.first? path).or (if file.target.same path then some file.contents else none) := by
  rw [first?, accepted_concat_ok, List.find?_append, first?, List.find?_singleton]
  cases history.accepted.find? (·.target.same path) with
  | some known => rfl
  | none =>
      cases file.target.same path with
      | true => rfl
      | false => rfl

theorem first?_congr {path other : FilePath} (same : path.components = other.components) :
    history.first? path = history.first? other := by
  simp [first?, FilePath.same, same]

/-- What was accepted first was accepted. -/
theorem exists_of_first? {path : FilePath} {contents : String}
    (found : history.first? path = some contents) :
    ∃ file ∈ history.accepted, file.target.same path = true ∧ file.contents = contents := by
  rw [first?, Option.map_eq_some_iff] at found
  obtain ⟨file, found, rfl⟩ := found
  have same := List.find?_some found
  exact ⟨file, List.mem_of_find?_eq_some found, same, rfl⟩

/-- What is accepted again is not the first for its path. -/
theorem first?_concat_known (known : history.first? file.target = some file.contents)
    (answer : FilePath) : first? (history ++ [(file, .ok answer)]) = history.first? := by
  funext path
  rw [first?_concat_ok]
  split
  next same => rw [← first?_congr (beq_iff_eq.mp same), known, Option.or_some]; rfl
  next => rw [Option.or_none]

/-- What is accepted for a path without contents is the first. -/
theorem first?_concat_new (new : history.first? file.target = none) (answer path : FilePath) :
    first? (history ++ [(file, .ok answer)]) path =
      if file.target.same path then some file.contents else history.first? path := by
  rw [first?_concat_ok]
  split
  next same => rw [← first?_congr (beq_iff_eq.mp same), new, Option.none_or]
  next => rw [Option.or_none]

end History

/-- Write files one after the other, whatever comes of each. -/
def attempt {W : Type} [Writer W] (files : List Artifact) (writer : W) : History × W :=
  files.foldl (fun run file =>
    let (answer, next) := Writer.write file run.2
    (run.1 ++ [(file, answer)], next)) ([], writer)

theorem attempt_concat {W : Type} [Writer W] {files : List Artifact} {file : Artifact}
    {writer next : W} {answer : Except WriteFault FilePath}
    (wrote : Writer.write file (attempt files writer).2 = (answer, next)) :
    attempt (files ++ [file]) writer = ((attempt files writer).1 ++ [(file, answer)], next) := by
  rw [attempt, List.foldl_append, ← attempt, List.foldl_cons, List.foldl_nil, wrote]

/-! ## One write -/

/-- What comes of a write below a root. -/
inductive DiskWriter.Writing (writer : DiskWriter) (file : Artifact) :
    Except WriteFault FilePath × DiskWriter → Prop
  | again (known : writer.written? (writer.root.join file.target) = some file.contents) :
      Writing writer file (.ok (writer.root.join file.target), writer)
  | conflict {contents : String} (differs : contents ≠ file.contents)
      (known : writer.written? (writer.root.join file.target) = some contents) :
      Writing writer file (.error (.conflict (writer.root.join file.target)), writer)
  | refused {cause : SystemFault} {disk : Disk}
      (new : writer.written? (writer.root.join file.target) = none)
      (failed : writer.disk.store (writer.root.join file.target) file.contents =
        (.error cause, disk)) :
      Writing writer file
        (.error (.system (writer.root.join file.target) cause), { writer with disk })
  | stored {disk : Disk} (new : writer.written? (writer.root.join file.target) = none)
      (stored : writer.disk.store (writer.root.join file.target) file.contents =
        (.ok (), disk)) :
      Writing writer file (.ok (writer.root.join file.target), { writer with
        disk
        written := ⟨writer.root.join file.target, file.contents⟩ :: writer.written })

theorem DiskWriter.write_writing (writer : DiskWriter) (file : Artifact) :
    writer.Writing file (Writer.write file writer) := by
  show writer.Writing file (DiskWriter.write file writer)
  rw [DiskWriter.write]
  cases known : writer.written? (writer.root.join file.target) with
  | some contents =>
      dsimp only
      split
      next same => exact .again (same ▸ known)
      next differs => exact .conflict differs known
  | none =>
      dsimp only
      rcases result : writer.disk.store (writer.root.join file.target) file.contents with
        ⟨answer, disk⟩
      cases answer with
      | error cause => exact .refused known result
      | ok done => exact .stored known result

/-- What comes of a write to memory. -/
inductive Memory.Writing (memory : Memory) (file : Artifact) :
    Except WriteFault FilePath × Memory → Prop
  | again (known : memory.contents? file.target = some file.contents) :
      Writing memory file (.ok file.target, memory)
  | conflict {contents : String} (differs : contents ≠ file.contents)
      (known : memory.contents? file.target = some contents) :
      Writing memory file (.error (.conflict file.target), memory)
  | added (new : memory.contents? file.target = none) :
      Writing memory file (.ok file.target, ⟨insert file memory.files⟩)

theorem Memory.write_writing (memory : Memory) (file : Artifact) :
    memory.Writing file (Writer.write file memory) := by
  show memory.Writing file (Memory.write file memory)
  rw [Memory.write]
  cases known : memory.contents? file.target with
  | some contents =>
      dsimp only
      split
      next same => exact .again (same ▸ known)
      next differs => exact .conflict differs known
  | none => exact .added known

/-! ## What a writer below a root upholds -/

variable {root : FilePath} {disk : Disk} {history : History} {file : Artifact}

/-- A writer that knows, and has on its file system, what was accepted first. -/
structure DiskWriter.Knows (root : FilePath) (disk : Disk) (history : History)
    (writer : DiskWriter) : Prop where
  rooted : writer.root = root
  descend : ∀ file ∈ history.accepted, file.target.Descends
  consistent : ∀ file ∈ history.accepted, history.first? file.target = some file.contents
  written : ∀ target : FilePath, target.Descends →
    writer.written? (root.join target) = history.first? target
  held : ∀ target : FilePath, target.Descends → ∀ contents,
    history.first? target = some contents →
      writer.disk.file? (root.places ++ target.components) = some contents
  untouched : ∀ place, (∀ file ∈ history.accepted, root.places ++ file.target.components ≠ place) →
    writer.disk.file? place = disk.file? place

namespace DiskWriter.Knows

variable {writer : DiskWriter}

theorem new (root : FilePath) (disk : Disk) : Knows root disk [] (.new root disk) where
  rooted := rfl
  descend := by simp [History.accepted]
  consistent := by simp [History.accepted]
  written := by
    intro target descends
    rfl
  held := by
    intro target descends contents found
    cases found
  untouched := by
    intro place off
    rfl

/-- A refusal leaves all files as they were. -/
theorem refuse (knows : Knows root disk history writer) (file : Artifact) (fault : WriteFault)
    {next : Disk} (adds : writer.disk.AddsDirectories next) :
    Knows root disk (history ++ [(file, .error fault)]) { writer with disk := next } where
  rooted := knows.rooted
  descend := by simpa using knows.descend
  consistent := by simpa using knows.consistent
  written := by
    rw [History.first?_concat_error]
    exact knows.written
  held := by simpa [adds.file?_eq] using knows.held
  untouched := by simpa [adds.file?_eq] using knows.untouched

/-- Accepting what was accepted before changes nothing. -/
theorem again (knows : Knows root disk history writer) (descends : file.target.Descends)
    (known : history.first? file.target = some file.contents) (answer : FilePath) :
    Knows root disk (history ++ [(file, .ok answer)]) writer where
  rooted := knows.rooted
  descend := by simpa [or_imp, forall_and] using ⟨knows.descend, descends⟩
  consistent := by
    rw [History.first?_concat_known known]
    simpa [or_imp, forall_and] using ⟨knows.consistent, known⟩
  written := by
    rw [History.first?_concat_known known]
    exact knows.written
  held := by
    rw [History.first?_concat_known known]
    exact knows.held
  untouched := by
    intro place off
    apply knows.untouched
    intro known member
    apply off
    simp [member]

/-- A file that is stored is the first for its path, and has a place of its own. -/
theorem store (knows : Knows root disk history writer) (descends : file.target.Descends)
    (new : history.first? file.target = none) {next : Disk}
    (stored : writer.disk.store (root.join file.target) file.contents = (.ok (), next)) :
    Knows root disk (history ++ [(file, .ok (root.join file.target))]) { writer with
      disk := next
      written := ⟨root.join file.target, file.contents⟩ :: writer.written } where
  rooted := knows.rooted
  descend := by simpa [or_imp, forall_and] using ⟨knows.descend, descends⟩
  consistent := by
    intro known member
    rw [History.first?_concat_new new]
    rw [History.accepted_concat_ok, List.mem_append, List.mem_singleton] at member
    rcases member with before | rfl
    · have known_first := knows.consistent known before
      split
      next same =>
        rw [← History.first?_congr (beq_iff_eq.mp same), new] at known_first
        cases known_first
      next => exact known_first
    · exact if_pos (beq_iff_eq.mpr rfl)
  written := by
    intro target descends'
    rw [History.first?_concat_new new, ← knows.written target descends',
      ← FilePath.same_join root descends descends', written?, List.find?_cons]
    cases (root.join file.target).same (root.join target) with
    | true => rfl
    | false => rfl
  held := by
    intro target descends' contents found
    rw [History.first?_concat_new new] at found
    rw [Disk.store_eq_ok stored, FilePath.places_join root descends]
    split at found
    next same => rw [if_pos (congrArg _ (beq_iff_eq.mp same).symm), found]
    next differs =>
      rw [if_neg fun same => differs (beq_iff_eq.mpr (List.append_cancel_left same).symm)]
      exact knows.held target descends' contents found
  untouched := by
    intro place off
    simp only [History.accepted_concat_ok, List.mem_append, List.mem_singleton] at off
    rw [Disk.store_eq_ok stored, FilePath.places_join root descends,
      if_neg (off file (.inr rfl)).symm]
    apply knows.untouched
    intro known member
    exact off known (.inl member)

/-- One write more is known as well. -/
theorem write (knows : Knows root disk history writer) (descends : file.target.Descends)
    {answer : Except WriteFault FilePath} {next : DiskWriter}
    (wrote : Writer.write file writer = (answer, next)) :
    Knows root disk (history ++ [(file, answer)]) next := by
  obtain rfl := knows.rooted
  have first := knows.written file.target descends
  have writing := writer.write_writing file
  rw [wrote] at writing
  cases writing with
  | again known => exact knows.again descends (first ▸ known) _
  | conflict differs known => exact knows.refuse file _ (.refl _)
  | refused new failed => exact knows.refuse file _ (Disk.store_eq_error failed)
  | stored new stored => exact knows.store descends (first ▸ new) stored

/-- Writes whose targets go down are all known. -/
theorem attempt (root : FilePath) (disk : Disk) (files : List Artifact)
    (descend : ∀ file ∈ files, file.target.Descends) :
    Knows root disk (Output.attempt files (DiskWriter.new root disk)).1
      (Output.attempt files (DiskWriter.new root disk)).2 := by
  induction files using List.reverseRecOn with
  | nil => exact .new root disk
  | append_singleton files file ih =>
      rw [List.forall_mem_append] at descend
      obtain ⟨before, last⟩ := descend
      rw [attempt_concat rfl]
      exact (ih before).write (last file (List.mem_singleton.mpr rfl)) rfl

end DiskWriter.Knows

/-- What a writer below a root holds to after some writes to a file system: what was
accepted first stays, and nothing else is changed or refused for it. -/
structure DiskWriter.Upholds (root : FilePath) (disk : Disk) (history : History)
    (writer : DiskWriter) : Prop where
  held : ∀ target contents, history.first? target = some contents →
    writer.disk.file? (root.join target).places = some contents
  untouched : ∀ place, (∀ file ∈ history.accepted, (root.join file.target).places ≠ place) →
    writer.disk.file? place = disk.file? place
  refused : ∀ file fault next, Writer.write file writer = (.error fault, next) →
    writer.disk.AddsDirectories next.disk ∧ next.disk.file? = writer.disk.file?
  conflict : ∀ file : Artifact, file.target.Descends →
    ((∃ path, (Writer.write file writer).1 = .error (.conflict path)) ↔
      ∃ known ∈ history.accepted, known.target.same file.target = true ∧
        known.contents ≠ file.contents)

namespace DiskWriter.Knows

variable {writer : DiskWriter}

theorem conflict_iff (knows : Knows root disk history writer) (descends : file.target.Descends) :
    (∃ path, (Writer.write file writer).1 = .error (.conflict path)) ↔
      ∃ known ∈ history.accepted, known.target.same file.target = true ∧
        known.contents ≠ file.contents := by
  obtain rfl := knows.rooted
  have first := knows.written file.target descends
  have writing := writer.write_writing file
  generalize Writer.write file writer = result at writing
  constructor
  · rintro ⟨path, conflict⟩
    cases writing with
    | conflict differs known =>
        rw [first] at known
        obtain ⟨other, member, same, rfl⟩ := History.exists_of_first? known
        exact ⟨other, member, same, differs⟩
    | again known => cases conflict
    | refused new failed => cases conflict
    | stored new stored => cases conflict
  · rintro ⟨other, member, same, differs⟩
    have found := knows.consistent other member
    rw [History.first?_congr (beq_iff_eq.mp same), ← first] at found
    cases writing with
    | conflict differs known => exact ⟨_, rfl⟩
    | again known => exact absurd (Option.some.inj (found.symm.trans known)) differs
    | refused new failed => cases found.symm.trans new
    | stored new stored => cases found.symm.trans new

theorem upholds (knows : Knows root disk history writer) : Upholds root disk history writer where
  held := by
    intro target contents found
    obtain ⟨file, member, same, -⟩ := History.exists_of_first? found
    have descends := (knows.descend file member).congr (beq_iff_eq.mp same)
    rw [FilePath.places_join root descends]
    exact knows.held target descends contents found
  untouched := by
    intro place off
    apply knows.untouched
    intro file member
    rw [← FilePath.places_join root (knows.descend file member)]
    exact off file member
  refused := by
    intro file fault next wrote
    have writing := writer.write_writing file
    rw [wrote] at writing
    have adds : writer.disk.AddsDirectories next.disk := by
      cases writing with
      | conflict differs known => exact .refl _
      | refused new failed => exact Disk.store_eq_error failed
    exact ⟨adds, adds.file?_eq⟩
  conflict := fun file descends => knows.conflict_iff descends

end DiskWriter.Knows

/-! ## What a memory holds -/

namespace Memory

theorem find?_insert (files : List Artifact) (path : FilePath)
    (new : ∀ known ∈ files, ¬known.target.same file.target = true) :
    (insert file files).find? (·.target.same path) =
      if file.target.same path then some file else files.find? (·.target.same path) := by
  induction files with
  | nil =>
      rw [insert, List.find?_singleton]
      rfl
  | cons first rest ih =>
      obtain ⟨differs, new⟩ := List.forall_mem_cons.mp new
      rw [insert]
      split
      next =>
        rw [List.find?_cons]
        cases file.target.same path with
        | true => rfl
        | false => rfl
      next =>
        rw [List.find?_cons, List.find?_cons, ih new]
        cases here : first.target.same path with
        | false => rfl
        | true =>
            have apart : ¬file.target.same path = true := by
              intro same
              exact differs (beq_iff_eq.mpr ((beq_iff_eq.mp here).trans (beq_iff_eq.mp same).symm))
            exact (if_neg apart).symm

/-- A memory holds what was accepted first. -/
theorem contents?_attempt (files : List Artifact) (path : FilePath) :
    (attempt files Memory.empty).2.contents? path =
      (attempt files Memory.empty).1.first? path := by
  induction files using List.reverseRecOn generalizing path with
  | nil => rfl
  | append_singleton files file ih =>
      have writing := write_writing (attempt files Memory.empty).2 file
      rcases wrote : Writer.write file (attempt files Memory.empty).2 with ⟨answer, next⟩
      rw [attempt_concat wrote]
      rw [wrote] at writing
      cases writing with
      | again known =>
          rw [ih] at known
          rw [History.first?_concat_known known]
          exact ih path
      | conflict differs known =>
          rw [History.first?_concat_error]
          exact ih path
      | added new =>
          rw [History.first?_concat_new (ih file.target ▸ new), ← ih, contents?,
            find?_insert _ _ (List.find?_eq_none.mp (Option.map_eq_none_iff.mp new)),
            apply_ite (Option.map _)]
          rfl

/-- The files of a memory as they are below a root. -/
def below (root : FilePath) (memory : Memory) : List Artifact :=
  memory.files.map fun file => { file with target := root.join file.target }

end Memory

/-! ## The same below a root -/

/-- A fault as it is below a root. -/
def WriteFault.below (root : FilePath) : WriteFault → WriteFault
  | .system path cause => .system (root.join path) cause
  | .conflict path => .conflict (root.join path)

/-- An answer as it is below a root. -/
def answerBelow (root : FilePath) (answer : Except WriteFault FilePath) :
    Except WriteFault FilePath :=
  (answer.map root.join).mapError (·.below root)

namespace History

/-- A history as it is below a root. -/
def below (root : FilePath) (history : History) : History :=
  history.map fun entry => (entry.1, answerBelow root entry.2)

/-- No write was refused by a file system. -/
def Unrefused (history : History) : Prop :=
  ∀ entry ∈ history, ∀ path cause, entry.2 ≠ .error (.system path cause)

/-- The same files are accepted below a root. -/
theorem first?_below (root : FilePath) (history : History) :
    (history.below root).first? = history.first? := by
  have same : (history.below root).accepted = history.accepted := by
    rw [below, accepted, accepted, List.filterMap_map]
    congr
    funext entry
    obtain ⟨file, answer⟩ := entry
    cases answer with
    | ok path => rfl
    | error fault => rfl
  funext path
  rw [first?, first?, same]

end History

namespace DiskWriter

/-- A write that no file system refuses is answered as by a memory that holds the same, and
adds the same. -/
theorem Knows.write_below {writer next : DiskWriter} {memory : Memory}
    (knows : Knows root disk history writer) (descends : file.target.Descends)
    (holds : ∀ path, memory.contents? path = history.first? path)
    (same : writer.written.Perm (memory.below root)) {answer : Except WriteFault FilePath}
    (wrote : Writer.write file writer = (answer, next))
    (unrefused : ∀ path cause, answer ≠ .error (.system path cause)) :
    ∃ answer' memory', Writer.write file memory = (answer', memory') ∧
      answer = answerBelow root answer' ∧ next.written.Perm (memory'.below root) := by
  obtain rfl := knows.rooted
  have first := (knows.written file.target descends).trans (holds file.target).symm
  have writing := writer.write_writing file
  have dry := memory.write_writing file
  rcases dryWrote : Writer.write file memory with ⟨answer', memory'⟩
  rw [wrote] at writing
  rw [dryWrote] at dry
  refine ⟨answer', memory', rfl, ?_⟩
  cases writing with
  | again known =>
      rw [known] at first
      cases dry with
      | again known' => exact ⟨rfl, same⟩
      | conflict differs known' => exact absurd (Option.some.inj (first.trans known')).symm differs
      | added new => cases first.trans new
  | conflict differs known =>
      rw [known] at first
      cases dry with
      | again known' => exact absurd (Option.some.inj (first.trans known')) differs
      | conflict differs' known' => exact ⟨rfl, same⟩
      | added new => cases first.trans new
  | refused new failed => exact absurd rfl (unrefused _ _)
  | stored new stored =>
      rw [new] at first
      cases dry with
      | again known' => cases first.trans known'
      | conflict differs known' => cases first.trans known'
      | added new' =>
          refine ⟨rfl, ?_⟩
          have more := (Memory.insert_perm file memory.files).map
            fun file => { file with target := writer.root.join file.target }
          exact (same.cons _).trans more.symm

/-- As long as no file system refuses a file, a writer below a root answers as a memory
does, and has accepted the same files. -/
theorem attempt_below (root : FilePath) (disk : Disk) (files : List Artifact)
    (descend : ∀ file ∈ files, file.target.Descends)
    (unrefused : (attempt files (DiskWriter.new root disk)).1.Unrefused) :
    (attempt files (DiskWriter.new root disk)).1 = (attempt files Memory.empty).1.below root ∧
      (attempt files (DiskWriter.new root disk)).2.written.Perm
        ((attempt files Memory.empty).2.below root) := by
  induction files using List.reverseRecOn with
  | nil => exact ⟨rfl, .refl _⟩
  | append_singleton files file ih =>
      rw [List.forall_mem_append] at descend
      obtain ⟨before, last⟩ := descend
      rcases wrote : Writer.write file (attempt files (DiskWriter.new root disk)).2 with
        ⟨answer, next⟩
      rw [attempt_concat wrote] at unrefused ⊢
      rw [History.Unrefused, List.forall_mem_append] at unrefused
      obtain ⟨unrefused, unrefused'⟩ := unrefused
      obtain ⟨histories, same⟩ := ih before unrefused
      have holds : ∀ path, (attempt files Memory.empty).2.contents? path =
          (attempt files (DiskWriter.new root disk)).1.first? path := by
        intro path
        rw [histories, History.first?_below, Memory.contents?_attempt]
      obtain ⟨answer', memory', wrote', rfl, same'⟩ :=
        (Knows.attempt root disk files before).write_below (last file (List.mem_singleton.mpr rfl))
          holds same wrote (unrefused' _ (List.mem_singleton.mpr rfl))
      rw [attempt_concat wrote', histories]
      exact ⟨by simp [History.below], same'⟩

/-- After any writes below a root, what was accepted first stays as it was, nothing else is
changed or in conflict, and as long as the file system refuses nothing, the answers and the
accepted files are those of a memory. -/
theorem attempt_upholds (root : FilePath) (disk : Disk) (files : List Artifact)
    (descend : ∀ file ∈ files, file.target.Descends) :
    let (history, writer) := attempt files (DiskWriter.new root disk)
    let (dry, memory) := attempt files Memory.empty
    Upholds root disk history writer ∧
      (history.Unrefused →
        history = dry.below root ∧ writer.written.Perm (memory.below root)) :=
  ⟨(Knows.attempt root disk files descend).upholds, attempt_below root disk files descend⟩

/-- A file that is written again with other contents, and one below a file that was there
before. -/
theorem attempt_upholds_blocked :
    let root : FilePath := ⟨"out"⟩
    let disk : Disk := ⟨[(["out"], .directory), (["out", "geo"], .file "old")]⟩
    let files : List Artifact :=
      [⟨⟨"a.rs"⟩, "one"⟩, ⟨⟨"geo/point.rs"⟩, "point"⟩, ⟨⟨"a.rs"⟩, "two"⟩]
    (∀ file ∈ files, file.target.Descends) ∧
      let (history, writer) := attempt files (DiskWriter.new root disk)
      let (dry, memory) := attempt files Memory.empty
      Upholds root disk history writer ∧
        (history.Unrefused →
          history = dry.below root ∧ writer.written.Perm (memory.below root)) := by
  intro root disk files
  have descend : ∀ file ∈ files, file.target.Descends := by
    intro file member
    constructor
    · revert file
      decide
    · revert file
      decide
  exact ⟨descend, attempt_upholds root disk files descend⟩

end DiskWriter

end RecordDerive.Output
