import RecordDerive.Round.Accumulator

/-!
# Ledgers

A ledger says what an accumulator does without saying how: a list of declarations
under distinct handles, and a phase.  Recording puts a declaration in the place of
the one under its handle or at the end, forgetting takes one out, and the phases
follow one another.
-/

namespace RecordDerive

variable {H : Type}

namespace Ledger

/-- The handles of some declarations. -/
def handles (declarations : List (Declaration H)) : List H :=
  declarations.map (·.handle)

@[simp] theorem handles_nil : handles ([] : List (Declaration H)) = [] := rfl

@[simp] theorem handles_cons (first : Declaration H) (rest : List (Declaration H)) :
    handles (first :: rest) = first.handle :: handles rest := rfl

@[simp] theorem handles_append (left right : List (Declaration H)) :
    handles (left ++ right) = handles left ++ handles right :=
  List.map_append

theorem mem_handles {handle : H} {declarations : List (Declaration H)} :
    handle ∈ handles declarations ↔
      ∃ declaration ∈ declarations, declaration.handle = handle :=
  List.mem_map

variable [DecidableEq H]

/-- The declaration under a handle. -/
def find? (handle : H) (declarations : List (Declaration H)) : Option (Declaration H) :=
  declarations.find? fun declaration => declaration.handle = handle

/-- The declarations with one put in the place of that under its handle, or at the
end. -/
def put (declaration : Declaration H) : List (Declaration H) → List (Declaration H)
  | [] => [declaration]
  | first :: rest =>
      if first.handle = declaration.handle then declaration :: rest
      else first :: put declaration rest

/-- The declarations without that under a handle. -/
def drop (handle : H) (declarations : List (Declaration H)) : List (Declaration H) :=
  declarations.filter fun declaration => declaration.handle ≠ handle

theorem put_nil (declaration : Declaration H) : put declaration [] = [declaration] := rfl

theorem put_cons (declaration first : Declaration H) (rest : List (Declaration H)) :
    put declaration (first :: rest) =
      if first.handle = declaration.handle then declaration :: rest
      else first :: put declaration rest := rfl

theorem put_of_mem {declaration : Declaration H} {declarations : List (Declaration H)}
    (known : declaration.handle ∈ handles declarations) :
    handles (put declaration declarations) = handles declarations := by
  induction declarations with
  | nil => cases known
  | cons first rest ih =>
      rw [put_cons]
      split
      next same => rw [handles_cons, handles_cons, same]
      next other =>
        have later : declaration.handle ∈ handles rest := by
          rcases List.mem_cons.mp known with same | later
          · exact absurd same.symm other
          · exact later
        rw [handles_cons, handles_cons, ih later]

theorem put_of_not_mem {declaration : Declaration H} {declarations : List (Declaration H)}
    (unknown : declaration.handle ∉ handles declarations) :
    put declaration declarations = declarations ++ [declaration] := by
  induction declarations with
  | nil => rfl
  | cons first rest ih =>
      rw [handles_cons, List.mem_cons, not_or] at unknown
      rw [put_cons, if_neg (Ne.symm unknown.1), ih unknown.2, List.cons_append]

/-- Putting a declaration leaves those under other handles, and no other under its
own. -/
theorem mem_put {declaration other : Declaration H} {declarations : List (Declaration H)}
    (distinct : (handles declarations).Nodup) :
    other ∈ put declaration declarations ↔
      other = declaration ∨ other ∈ declarations ∧ other.handle ≠ declaration.handle := by
  induction declarations with
  | nil => simp [put_nil]
  | cons first rest ih =>
      rw [handles_cons, List.nodup_cons] at distinct
      rw [put_cons]
      split
      next same =>
        have apart : other ∈ rest → other.handle ≠ declaration.handle := by
          intro member equal
          exact distinct.1 (mem_handles.mpr ⟨other, member, equal.trans same.symm⟩)
        constructor
        · intro member
          rcases List.mem_cons.mp member with same' | later
          · exact .inl same'
          · exact .inr ⟨List.mem_cons_of_mem first later, apart later⟩
        · rintro (rfl | ⟨member, different⟩)
          · exact List.mem_cons_self
          · rcases List.mem_cons.mp member with rfl | later
            · exact absurd same different
            · exact List.mem_cons_of_mem _ later
      next different =>
        rw [List.mem_cons, ih distinct.2, List.mem_cons]
        constructor
        · rintro (rfl | rfl | ⟨member, apart⟩)
          · exact .inr ⟨.inl rfl, different⟩
          · exact .inl rfl
          · exact .inr ⟨.inr member, apart⟩
        · rintro (rfl | ⟨rfl | member, apart⟩)
          · exact .inr (.inl rfl)
          · exact .inl rfl
          · exact .inr (.inr ⟨member, apart⟩)

theorem mem_drop {handle : H} {other : Declaration H} {declarations : List (Declaration H)} :
    other ∈ drop handle declarations ↔ other ∈ declarations ∧ other.handle ≠ handle := by
  rw [drop, List.mem_filter, decide_eq_true_eq]

theorem find?_eq_none {handle : H} {declarations : List (Declaration H)}
    (unknown : handle ∉ handles declarations) : find? handle declarations = none := by
  rw [find?, List.find?_eq_none]
  intro declaration member same
  exact unknown (mem_handles.mpr ⟨declaration, member, of_decide_eq_true same⟩)

theorem drop_eq_self {handle : H} {declarations : List (Declaration H)}
    (unknown : handle ∉ handles declarations) : drop handle declarations = declarations := by
  rw [drop, List.filter_eq_self]
  intro declaration member
  rw [decide_eq_true_eq]
  exact fun same => unknown (mem_handles.mpr ⟨declaration, member, same⟩)

theorem drop_sublist (handle : H) (declarations : List (Declaration H)) :
    (drop handle declarations).Sublist declarations :=
  List.filter_sublist

theorem nodup_put {declaration : Declaration H} {declarations : List (Declaration H)}
    (distinct : (handles declarations).Nodup) :
    (handles (put declaration declarations)).Nodup := by
  by_cases known : declaration.handle ∈ handles declarations
  · rw [put_of_mem known]
    exact distinct
  · rw [put_of_not_mem known, handles_append, handles_cons, handles_nil]
    refine List.nodup_append.mpr ⟨distinct, List.pairwise_singleton _ _, ?_⟩
    intro handle member other single same
    rw [same, List.mem_singleton.mp single] at member
    exact known member

theorem nodup_drop {declarations : List (Declaration H)} (handle : H)
    (distinct : (handles declarations).Nodup) : (handles (drop handle declarations)).Nodup :=
  distinct.sublist ((drop_sublist handle declarations).map _)

/-! ## By position -/

section Position

variable {old : Declaration H} {declarations : List (Declaration H)} {position : Nat}

/-- The declaration at a position is the one under its handle. -/
theorem find?_of_getElem? (distinct : (handles declarations).Nodup)
    (found : declarations[position]? = some old) :
    find? old.handle declarations = some old := by
  induction declarations generalizing position with
  | nil => simp at found
  | cons first rest ih =>
      rw [handles_cons, List.nodup_cons] at distinct
      cases position with
      | zero =>
          have here : first = old := Option.some.inj found
          rw [find?, List.find?_cons_of_pos (by simp [here]), here]
      | succ position =>
          have later : rest[position]? = some old := found
          have apart : first.handle ≠ old.handle := fun equal =>
            distinct.1 (mem_handles.mpr ⟨old, List.mem_of_getElem? later, equal.symm⟩)
          rw [find?, List.find?_cons_of_neg (by simpa using apart)]
          exact ih distinct.2 later

/-- Putting a declaration changes the one position of its handle. -/
theorem put_eq_set {declaration : Declaration H} (distinct : (handles declarations).Nodup)
    (found : declarations[position]? = some old) (same : old.handle = declaration.handle) :
    put declaration declarations = declarations.set position declaration := by
  induction declarations generalizing position with
  | nil => simp at found
  | cons first rest ih =>
      rw [handles_cons, List.nodup_cons] at distinct
      cases position with
      | zero =>
          have here : first = old := Option.some.inj found
          rw [put_cons, if_pos (here ▸ same), List.set_cons_zero]
      | succ position =>
          have later : rest[position]? = some old := found
          have apart : first.handle ≠ declaration.handle := fun equal =>
            distinct.1 (mem_handles.mpr ⟨old, List.mem_of_getElem? later, same.trans equal.symm⟩)
          rw [put_cons, if_neg apart, List.set_cons_succ, ih distinct.2 later]

/-- Dropping a handle takes out its one position. -/
theorem drop_eq_eraseIdx (distinct : (handles declarations).Nodup)
    (found : declarations[position]? = some old) :
    drop old.handle declarations = declarations.eraseIdx position := by
  induction declarations generalizing position with
  | nil => simp at found
  | cons first rest ih =>
      rw [handles_cons, List.nodup_cons] at distinct
      cases position with
      | zero =>
          have here : first = old := Option.some.inj found
          rw [here] at distinct ⊢
          rw [drop, List.filter_cons_of_neg (by simp), List.eraseIdx_cons_zero]
          exact drop_eq_self distinct.1
      | succ position =>
          have later : rest[position]? = some old := found
          have apart : first.handle ≠ old.handle := fun equal =>
            distinct.1 (mem_handles.mpr ⟨old, List.mem_of_getElem? later, equal.symm⟩)
          rw [drop, List.filter_cons_of_pos (by simpa using apart), List.eraseIdx_cons_succ]
          exact congrArg (first :: ·) (ih distinct.2 later)

end Position

end Ledger

/-- Declarations under distinct handles, and how far their collection has come. -/
structure Ledger (H : Type) where
  declarations : List (Declaration H)
  distinct : (Ledger.handles declarations).Nodup
  phase : Phase

namespace Ledger

/-- What recording a declaration does to the one that was there. -/
def recorded (declaration : Declaration H) : Option (Declaration H) → Recorded
  | none => .added
  | some old =>
      .replaced (old.qualifiedName ≠ declaration.qualifiedName ∨ old.fields ≠ declaration.fields)

theorem recorded_some (declaration old : Declaration H) :
    recorded declaration (some old) = .replaced !old.sameStructure declaration := by
  rw [recorded, Declaration.sameStructure, Recorded.replaced.injEq, Bool.eq_iff_iff,
    decide_eq_true_iff, Bool.not_and, Bool.or_eq_true, Bool.not_eq_true', Bool.not_eq_true',
    beq_eq_false_iff_ne, beq_eq_false_iff_ne]

variable [DecidableEq H]

/-- Nothing recorded. -/
def empty : Ledger H := ⟨[], List.nodup_nil, .collecting⟩

/-- Put a declaration, as long as declarations are collected. -/
def record (ledger : Ledger H) (declaration : Declaration H) :
    Except Violation (Recorded × Ledger H) :=
  if ledger.phase = .collecting then
    .ok (recorded declaration (find? declaration.handle ledger.declarations),
      { ledger with
        declarations := put declaration ledger.declarations
        distinct := nodup_put ledger.distinct })
  else .error (.recordAfterFinalize declaration.qualifiedName ledger.phase)

/-- Drop a declaration, as long as declarations are collected. -/
def forget (ledger : Ledger H) (handle : H) :
    Except Violation (Option (Declaration H) × Ledger H) :=
  if ledger.phase = .collecting then
    .ok (find? handle ledger.declarations,
      { ledger with
        declarations := drop handle ledger.declarations
        distinct := nodup_drop handle ledger.distinct })
  else .error (.forgetAfterFinalize ledger.phase)

/-- End collection. -/
def beginFinalize (ledger : Ledger H) :
    Except Violation (List (Declaration H) × Ledger H) :=
  if ledger.phase = .collecting then
    .ok (ledger.declarations, { ledger with phase := .finalizing })
  else .error (.alreadyFinalized ledger.phase)

/-- End finalization. -/
def finish (ledger : Ledger H) : Except Violation (Unit × Ledger H) :=
  if ledger.phase = .finalizing then .ok ((), { ledger with phase := .done })
  else .error (.finishWithoutFinalize ledger.phase)

end Ledger

end RecordDerive
