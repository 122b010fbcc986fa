import RecordDerive.Proofs.Round.Ledger

/-!
# Accumulators keep a ledger

An accumulator finds declarations through an index of their positions.  The index
is right at every moment: it holds the handles of the entries with their positions
and nothing else, also after an entry was taken out and those behind it moved up.
So every operation does to the entries what it does to a ledger.
-/

namespace RecordDerive

open Ledger (handles find? put drop)

variable {H : Type} [DecidableEq H] [Hashable H]

/-- The index of an accumulator holds exactly the handles of the entries, each
with its position. -/
structure Accumulator.Indexed (accumulator : Accumulator H) : Prop where
  place_iff : ∀ (handle : H) (position : Nat),
    accumulator.positions[handle]? = some position ↔
      (handles accumulator.entries)[position]? = some handle

namespace Accumulator

namespace Indexed

variable {accumulator : Accumulator H}

/-- Every handle has one position only. -/
theorem distinct (indexed : accumulator.Indexed) : (handles accumulator.entries).Nodup := by
  rw [List.Nodup, List.pairwise_iff_getElem]
  intro first second firstBound secondBound before same
  have firstPlace := (indexed.place_iff _ first).mpr (List.getElem?_eq_getElem firstBound)
  have secondPlace := (indexed.place_iff _ second).mpr (List.getElem?_eq_getElem secondBound)
  rw [same, secondPlace] at firstPlace
  have equal := Option.some.inj firstPlace
  omega

/-- The index knows the handles of the entries and no others. -/
theorem not_mem (indexed : accumulator.Indexed) {handle : H}
    (unknown : accumulator.positions[handle]? = none) : handle ∉ handles accumulator.entries := by
  intro member
  obtain ⟨position, place⟩ := List.mem_iff_getElem?.mp member
  rw [(indexed.place_iff handle position).mpr place] at unknown
  cases unknown

/-- A position of the index is that of an entry. -/
theorem entry (indexed : accumulator.Indexed) {handle : H} {position : Nat}
    (place : accumulator.positions[handle]? = some position) :
    ∃ declaration, accumulator.entries[position]? = some declaration ∧
      declaration.handle = handle := by
  have listed := (indexed.place_iff handle position).mp place
  rw [handles, List.getElem?_map, Option.map_eq_some_iff] at listed
  exact listed

theorem empty : (Accumulator.empty : Accumulator H).Indexed where
  place_iff := by
    intro handle position
    simp [Accumulator.empty]

/-- The phase does not matter to the index. -/
theorem withPhase (indexed : accumulator.Indexed) (phase : Phase) :
    Accumulator.Indexed { accumulator with phase } := ⟨indexed.place_iff⟩

/-- Looking a handle up through the index finds the declaration under it. -/
theorem get_eq (indexed : accumulator.Indexed) (handle : H) :
    accumulator.get handle = find? handle accumulator.entries := by
  cases place : accumulator.positions[handle]? with
  | none =>
      have unknown := indexed.not_mem place
      rw [Accumulator.get, place]
      exact (Ledger.find?_eq_none unknown).symm
  | some position =>
      obtain ⟨old, found, rfl⟩ := indexed.entry place
      rw [Accumulator.get, place, Ledger.find?_of_getElem? indexed.distinct found]
      exact found

/-- The index with the handle of a new last entry. -/
theorem append (indexed : accumulator.Indexed) {declaration : Declaration H}
    (unknown : declaration.handle ∉ handles accumulator.entries) :
    Accumulator.Indexed { accumulator with
      entries := accumulator.entries ++ [declaration]
      positions :=
        accumulator.positions.insert declaration.handle accumulator.entries.length } := by
  refine ⟨?_⟩
  intro handle position
  have count : (handles accumulator.entries).length = accumulator.entries.length :=
    List.length_map _
  rw [Std.ExtHashMap.getElem?_insert, Ledger.handles_append, List.getElem?_append, count]
  by_cases same : declaration.handle = handle
  · rw [if_pos (beq_iff_eq.mpr same)]
    split
    next inside =>
      constructor
      · intro equal
        have := Option.some.inj equal
        omega
      · intro earlier
        rw [same] at unknown
        exact absurd (List.mem_of_getElem? earlier) unknown
    next outside =>
      rw [Ledger.handles_cons, Ledger.handles_nil, same, List.getElem?_singleton, Option.some_inj]
      split
      next first => exact iff_of_true (by omega) rfl
      next beyond => exact iff_of_false (by omega) nofun
  · rw [if_neg (fun equal => same (beq_iff_eq.mp equal)), indexed.place_iff handle position]
    split
    next inside => exact Iff.rfl
    next outside =>
      rw [List.getElem?_eq_none (by omega), Ledger.handles_cons, Ledger.handles_nil,
        List.getElem?_singleton]
      split
      next first => exact iff_of_false nofun fun equal => same (Option.some.inj equal)
      next beyond => exact Iff.rfl

/-- The index with the entry at a position taken out and those behind it moved
up. -/
theorem eraseIdx (indexed : accumulator.Indexed) {handle : H} {position : Nat}
    (place : accumulator.positions[handle]? = some position) :
    Accumulator.Indexed { accumulator with
      entries := accumulator.entries.eraseIdx position
      positions := (accumulator.positions.erase handle).map fun _ place =>
        if place > position then place - 1 else place } := by
  refine ⟨?_⟩
  intro other index
  have moved : (handles (accumulator.entries.eraseIdx position))[index]? =
      (handles accumulator.entries)[if index < position then index else index + 1]? := by
    rw [handles, List.getElem?_map, List.getElem?_eraseIdx, handles, List.getElem?_map]
    split <;> rfl
  rw [moved, ← indexed.place_iff, Std.ExtHashMap.getElem?_map, Std.ExtHashMap.getElem?_erase]
  by_cases same : handle = other
  · rw [if_pos (beq_iff_eq.mpr same), ← same, place, Option.map_none, Option.some_inj]
    exact iff_of_false nofun (by split <;> omega)
  · rw [if_neg (fun equal => same (beq_iff_eq.mp equal))]
    cases found : accumulator.positions[other]? with
    | none => exact iff_of_false nofun nofun
    | some old =>
        -- Two handles do not share a position, so nothing is moved onto the gap.
        have apart : old ≠ position := by
          intro equal
          have here := (indexed.place_iff handle position).mp place
          have there := (indexed.place_iff other old).mp found
          rw [equal, here] at there
          exact same (Option.some.inj there)
        rw [Option.map_some, Option.some_inj, Option.some_inj]
        split <;> split <;> omega

end Indexed

/-- An accumulator that still collects, with a right index, and the declarations
it has. -/
structure Collects (accumulator : Accumulator H) (declarations : List (Declaration H)) : Prop where
  indexed : accumulator.Indexed
  entries : accumulator.entries = declarations
  phase : accumulator.phase = .collecting

namespace Collects

variable {accumulator : Accumulator H} {declarations : List (Declaration H)}

theorem empty : (Accumulator.empty : Accumulator H).Collects [] := ⟨.empty, rfl, rfl⟩

/-- A recorded declaration is put among the others. -/
theorem record (collects : accumulator.Collects declarations) (declaration : Declaration H) :
    ∃ after : Accumulator H,
      accumulator.record declaration =
        .ok (Ledger.recorded declaration (find? declaration.handle declarations), after) ∧
      after.Collects (put declaration declarations) := by
  obtain ⟨indexed, rfl, collecting⟩ := collects
  have open_ : ¬accumulator.phase ≠ .collecting := not_not_intro collecting
  cases place : accumulator.positions[declaration.handle]? with
  | none =>
      have unknown := indexed.not_mem place
      refine ⟨_, ?_, indexed.append unknown, (Ledger.put_of_not_mem unknown).symm, collecting⟩
      rw [Accumulator.record, if_neg open_, place, Ledger.find?_eq_none unknown]
      rfl
  | some position =>
      obtain ⟨old, found, same⟩ := indexed.entry place
      have known : declaration.handle ∈ handles accumulator.entries :=
        List.mem_of_getElem? ((indexed.place_iff _ position).mp place)
      refine ⟨{ accumulator with entries := put declaration accumulator.entries }, ?_, ⟨?_⟩, rfl,
        collecting⟩
      · have before : find? declaration.handle accumulator.entries = some old := by
          rw [← same]
          exact Ledger.find?_of_getElem? indexed.distinct found
        rw [Accumulator.record, if_neg open_, place, before, Ledger.recorded_some,
          Ledger.put_eq_set indexed.distinct found same]
        simp only [found, Option.any_some]
      · intro handle index
        rw [Ledger.put_of_mem known]
        exact indexed.place_iff handle index

/-- A forgotten handle is dropped. -/
theorem forget (collects : accumulator.Collects declarations) (handle : H) :
    ∃ after : Accumulator H,
      accumulator.forget handle = .ok (find? handle declarations, after) ∧
      after.Collects (drop handle declarations) := by
  obtain ⟨indexed, rfl, collecting⟩ := collects
  have open_ : ¬accumulator.phase ≠ .collecting := not_not_intro collecting
  cases place : accumulator.positions[handle]? with
  | none =>
      have unknown := indexed.not_mem place
      refine ⟨accumulator, ?_, indexed, (Ledger.drop_eq_self unknown).symm, collecting⟩
      rw [Accumulator.forget, if_neg open_, place, Ledger.find?_eq_none unknown]
  | some position =>
      obtain ⟨old, found, rfl⟩ := indexed.entry place
      refine ⟨_, ?_, indexed.eraseIdx place,
        (Ledger.drop_eq_eraseIdx indexed.distinct found).symm, collecting⟩
      rw [Accumulator.forget, if_neg open_, place,
        Ledger.find?_of_getElem? indexed.distinct found]
      simp only [found]

end Collects

end Accumulator

end RecordDerive
