import Mathlib.Data.Fintype.EquivFin
import Mathlib.Logic.Relation
import Mathlib.Order.WellFounded
import RecordDerive.Proofs.Metadata.Interning

/-!
# Which names resolve

Tables are not trusted: the way from an entry up through the names that enclose it may end
at one that nothing encloses, meet an index that is missing, or go on for ever.  A way that
ends passes no entry twice, since from one entry there is only one way on.  So it has no
more steps than the table has entries, and resolution, which takes one more, comes to its
end; only the ways without an end are given up.
-/

namespace RecordDerive.Metadata.NameTable

variable {table : NameTable}

/-! ## Ways up -/

/-- The first index that is missing on the way up: the index of an entry comes before that
of its text, and this one before all that is above. -/
inductive Breaks (table : NameTable) : Option UInt32 → UInt32 → Prop
  | entry {index : UInt32} (absent : table.qualified[index.toNat]? = none) :
      Breaks table (some index) index
  | text {index : UInt32} {entry : QualifiedName}
      (found : table.qualified[index.toNat]? = some entry)
      (absent : table.strings[entry.short.toNat]? = none) :
      Breaks table (some index) entry.short
  | above {index missing : UInt32} {entry : QualifiedName} {text : String}
      (found : table.qualified[index.toNat]? = some entry)
      (spelled : table.strings[entry.short.toNat]? = some text)
      (breaks : Breaks table entry.parent missing) : Breaks table (some index) missing

/-- One entry is directly enclosed by another. -/
def Inside (table : NameTable) (inner outer : UInt32) : Prop :=
  ∃ entry, table.qualified[inner.toNat]? = some entry ∧ entry.parent = some outer

/-- Nothing is missing on the way up, and every entry on it is enclosed by another. -/
def Endless (table : NameTable) (index : UInt32) : Prop :=
  ∀ above, Relation.ReflTransGen table.Inside index above →
    ∃ entry text outer, table.qualified[above.toNat]? = some entry ∧
      table.strings[entry.short.toNat]? = some text ∧ entry.parent = some outer

/-- A way that stops somewhere ends or breaks. -/
theorem chain_or_breaks {index top : UInt32} (reached : Relation.ReflTransGen table.Inside index top)
    (stops : ¬∃ entry text outer, table.qualified[top.toNat]? = some entry ∧
      table.strings[entry.short.toNat]? = some text ∧ entry.parent = some outer) :
    (∃ segments, table.Chain (some index) segments) ∨
      ∃ missing, table.Breaks (some index) missing := by
  -- What is above an entry is passed on to it, unless its own text is missing.
  induction reached using Relation.ReflTransGen.head_induction_on with
  | refl =>
      cases found : table.qualified[top.toNat]? with
      | none => exact .inr ⟨top, .entry found⟩
      | some entry =>
          cases spelled : table.strings[entry.short.toNat]? with
          | none => exact .inr ⟨entry.short, .text found spelled⟩
          | some text =>
              cases enclosed : entry.parent with
              | some outer => exact absurd ⟨entry, text, outer, found, spelled, enclosed⟩ stops
              | none =>
                  have ended : table.Chain entry.parent [] := enclosed ▸ Chain.root
                  exact .inl ⟨_, .inside found spelled ended⟩
  | head inside _ above =>
      obtain ⟨entry, found, enclosed⟩ := inside
      rw [← enclosed] at above
      cases spelled : table.strings[entry.short.toNat]? with
      | none => exact .inr ⟨entry.short, .text found spelled⟩
      | some text =>
          rcases above with ⟨segments, chain⟩ | ⟨missing, breaks⟩
          · exact .inl ⟨_, .inside found spelled chain⟩
          · exact .inr ⟨missing, .above found spelled breaks⟩

/-- Every way up ends, breaks or goes on for ever. -/
theorem chain_or_breaks_or_endless (table : NameTable) (index : UInt32) :
    (∃ segments, table.Chain (some index) segments) ∨
      (∃ missing, table.Breaks (some index) missing) ∨ table.Endless index := by
  by_cases endless : table.Endless index
  · exact .inr (.inr endless)
  · simp only [Endless, not_forall] at endless
    obtain ⟨top, reached, stops⟩ := endless
    exact (chain_or_breaks reached stops).imp_right .inl

/-! ## Heights -/

/-- The number of entries that are passed on a way up before it ends. -/
inductive Ends (table : NameTable) : Option UInt32 → Nat → Prop
  | root : Ends table none 0
  | entry {index : UInt32} (absent : table.qualified[index.toNat]? = none) :
      Ends table (some index) 0
  | text {index : UInt32} {entry : QualifiedName}
      (found : table.qualified[index.toNat]? = some entry)
      (absent : table.strings[entry.short.toNat]? = none) : Ends table (some index) 0
  | above {index : UInt32} {entry : QualifiedName} {text : String} {height : Nat}
      (found : table.qualified[index.toNat]? = some entry)
      (spelled : table.strings[entry.short.toNat]? = some text)
      (ends : Ends table entry.parent height) : Ends table (some index) (height + 1)

namespace Ends

variable {index : Option UInt32} {height height' : Nat}

/-- There is only one way on from an entry. -/
theorem unique (ends : table.Ends index height) (ends' : table.Ends index height') :
    height = height' := by
  induction ends generalizing height' with
  | root => cases ends'; rfl
  | entry absent =>
      cases ends' with
      | entry _ => rfl
      | text _ _ => rfl
      | above found _ _ => simp [absent] at found
  | text found absent =>
      cases ends' with
      | entry _ => rfl
      | text _ _ => rfl
      | above found' spelled _ =>
          cases found.symm.trans found'
          simp [absent] at spelled
  | above found spelled _ ih =>
      cases ends' with
      | entry absent => simp [absent] at found
      | text found' absent =>
          cases found.symm.trans found'
          simp [absent] at spelled
      | above found' _ rest =>
          cases found.symm.trans found'
          exact congrArg (· + 1) (ih rest)

/-- Every height up to that of a way is that of an entry on it. -/
theorem exists_entry (ends : table.Ends index height) {lower : Nat} (below : lower < height) :
    ∃ passed : UInt32, passed.toNat < table.qualified.length ∧
      table.Ends (some passed) (lower + 1) := by
  induction ends with
  | root => cases below
  | entry _ => cases below
  | text _ _ => cases below
  | @above index _ _ height found spelled ends ih =>
      rcases Nat.lt_succ_iff_lt_or_eq.mp below with lower | rfl
      · exact ih lower
      · exact ⟨index, (List.getElem?_eq_some_iff.mp found).1, .above found spelled ends⟩

/-- No entry has two heights, so no way is higher than there are entries. -/
theorem height_le (ends : table.Ends index height) : height ≤ table.qualified.length := by
  choose passed inside reaches using fun lower : Fin height => ends.exists_entry lower.isLt
  have apart : Function.Injective fun lower => (⟨_, inside lower⟩ : Fin table.qualified.length) := by
    intro first second same
    have passes : passed first = passed second := UInt32.toNat_inj.mp (Fin.mk.inj same)
    have reached := reaches first
    rw [passes] at reached
    exact Fin.ext (Nat.succ.inj (reached.unique (reaches second)))
  simpa using Fintype.card_le_of_injective _ apart

end Ends

/-! ## Climbing -/

section Climbing

variable {index start missing : UInt32} {steps : Nat} {collected : List Segment}

theorem Chain.ends {index : Option UInt32} {segments : List Segment}
    (chain : table.Chain index segments) : table.Ends index segments.length := by
  induction chain with
  | root => exact .root
  | inside found spelled _ ih =>
      rw [List.length_append]
      exact .above found spelled ih

/-- Climbing comes to what is missing, if it takes a step more than there are entries to
pass. -/
theorem Breaks.exists_climb {index : Option UInt32} (breaks : table.Breaks index missing) :
    ∃ height, table.Ends index height ∧ ∀ start steps collected, height < steps →
      table.climb start steps index collected = .error (.unknownName missing) := by
  induction breaks with
  | @entry index absent =>
      refine ⟨0, .entry absent, ?_⟩
      intro start steps collected more
      cases steps with
      | zero => cases more
      | succ steps =>
          rw [climb, NameTable.entry, absent]
          rfl
  | @text index entry found absent =>
      refine ⟨0, .text found absent, ?_⟩
      intro start steps collected more
      cases steps with
      | zero => cases more
      | succ steps =>
          rw [climb, NameTable.entry, found]
          show (table.string entry.short >>= _) = _
          rw [string, absent]
          rfl
  | @above index missing entry text found spelled _ ih =>
      obtain ⟨height, ends, climbs⟩ := ih
      refine ⟨height + 1, .above found spelled ends, ?_⟩
      intro start steps collected more
      cases steps with
      | zero => cases more
      | succ steps =>
          rw [climb_inside found spelled]
          exact climbs start steps _ (Nat.lt_of_succ_lt_succ more)

/-- A way without an end takes all steps there are. -/
theorem Endless.climb (endless : table.Endless index) (start : UInt32) (steps : Nat)
    (collected : List Segment) :
    table.climb start steps (some index) collected = .error (.cyclicName start) := by
  induction steps generalizing index collected with
  | zero => rfl
  | succ steps ih =>
      obtain ⟨entry, text, outer, found, spelled, enclosed⟩ := endless index .refl
      have above : table.Endless outer := fun top reached =>
        endless top (.head ⟨entry, found, enclosed⟩ reached)
      rw [climb_inside found spelled, enclosed]
      exact ih above _

end Climbing

/-! ## Resolution -/

section Resolution

variable {index : UInt32}

theorem segments_of_chain {segments : List Segment} (chain : table.Chain (some index) segments) :
    table.segments index = .ok segments := by
  have enough : segments.length ≤ table.qualified.length + 1 :=
    Nat.le_succ_of_le chain.ends.height_le
  rw [NameTable.segments, chain.climb index enough [], List.append_nil]

theorem segments_of_breaks {missing : UInt32} (breaks : table.Breaks (some index) missing) :
    table.segments index = .error (.unknownName missing) := by
  obtain ⟨height, ends, climbs⟩ := breaks.exists_climb
  exact climbs index _ [] (Nat.lt_succ_of_le ends.height_le)

theorem segments_of_endless (endless : table.Endless index) :
    table.segments index = .error (.cyclicName index) :=
  endless.climb index _ []

theorem segments_eq_ok_iff {segments : List Segment} :
    table.segments index = .ok segments ↔ table.Chain (some index) segments := by
  refine ⟨?_, segments_of_chain⟩
  intro resolved
  rcases table.chain_or_breaks_or_endless index with ⟨_, chain⟩ | ⟨_, breaks⟩ | endless
  · cases (segments_of_chain chain).symm.trans resolved
    exact chain
  · cases (segments_of_breaks breaks).symm.trans resolved
  · cases (segments_of_endless endless).symm.trans resolved

theorem segments_eq_unknownName_iff {missing : UInt32} :
    table.segments index = .error (.unknownName missing) ↔
      table.Breaks (some index) missing := by
  refine ⟨?_, segments_of_breaks⟩
  intro resolved
  rcases table.chain_or_breaks_or_endless index with ⟨_, chain⟩ | ⟨_, breaks⟩ | endless
  · cases (segments_of_chain chain).symm.trans resolved
  · cases (segments_of_breaks breaks).symm.trans resolved
    exact breaks
  · cases (segments_of_endless endless).symm.trans resolved

theorem segments_eq_cyclicName_iff {start : UInt32} :
    table.segments index = .error (.cyclicName start) ↔
      start = index ∧ table.Endless index := by
  constructor
  · intro resolved
    rcases table.chain_or_breaks_or_endless index with ⟨_, chain⟩ | ⟨_, breaks⟩ | endless
    · cases (segments_of_chain chain).symm.trans resolved
    · cases (segments_of_breaks breaks).symm.trans resolved
    · cases (segments_of_endless endless).symm.trans resolved
      exact ⟨rfl, endless⟩
  · rintro ⟨rfl, endless⟩
    exact segments_of_endless endless

/-- As there are finitely many indices, a way without an end comes back to one of them. -/
theorem Endless.exists_circle (endless : table.Endless index) :
    ∃ above, Relation.ReflTransGen table.Inside index above ∧
      Relation.TransGen table.Inside above above := by
  by_contra straight
  let Above := { above // Relation.ReflTransGen table.Inside index above }
  let higher (upper lower : Above) : Prop := Relation.TransGen table.Inside lower.1 upper.1
  have finite : Finite UInt32 :=
    Finite.of_injective UInt32.toFin fun _ _ same => UInt32.toFin_inj.mp same
  have transitive : IsTrans Above higher := ⟨fun _ _ _ second first => first.trans second⟩
  have irreflexive : Std.Irrefl higher := ⟨fun entry circle => straight ⟨entry.1, entry.2, circle⟩⟩
  have founded : WellFounded higher := Finite.wellFounded_of_trans_of_irrefl higher
  -- The highest entry has one above it all the same.
  obtain ⟨⟨top, reached⟩, -, highest⟩ := founded.has_min Set.univ ⟨⟨index, .refl⟩, trivial⟩
  obtain ⟨entry, text, outer, found, spelled, enclosed⟩ := endless top reached
  have inside : table.Inside top outer := ⟨entry, found, enclosed⟩
  exact highest ⟨outer, reached.tail inside⟩ trivial (.single inside)

end Resolution

/-- Resolution tells the ways up apart: a name is resolved to the segments on a way that ends,
a missing index is the first one on the way, and only a way without an end is called cyclic.
It is one of the three, and where the way does not come back to an entry, the last it is not. -/
theorem segments_classifies (table : NameTable) (index : UInt32) :
    (∀ segments, table.segments index = .ok segments ↔ table.Chain (some index) segments) ∧
    (∀ missing, table.segments index = .error (.unknownName missing) ↔
      table.Breaks (some index) missing) ∧
    (∀ start, table.segments index = .error (.cyclicName start) ↔
      start = index ∧ table.Endless index) ∧
    ((∃ segments, table.Chain (some index) segments) ∨
      (∃ missing, table.Breaks (some index) missing) ∨ table.Endless index) ∧
    ((∀ above, Relation.ReflTransGen table.Inside index above →
        ¬Relation.TransGen table.Inside above above) →
      ∀ start, table.segments index ≠ .error (.cyclicName start)) := by
  refine ⟨fun _ => segments_eq_ok_iff, fun _ => segments_eq_unknownName_iff,
    fun _ => segments_eq_cyclicName_iff, table.chain_or_breaks_or_endless index, ?_⟩
  intro straight start cyclic
  obtain ⟨-, endless⟩ := segments_eq_cyclicName_iff.mp cyclic
  obtain ⟨above, reached, circle⟩ := endless.exists_circle
  exact straight above reached circle

/-- A way through all entries is resolved. -/
example :
    let table : NameTable := ⟨["a", "b", "C"],
      [⟨some 2, 1, .package⟩, ⟨some 0, 2, .type⟩, ⟨none, 0, .package⟩]⟩
    table.segments 1 = .ok [⟨.package, "a"⟩, ⟨.package, "b"⟩, ⟨.type, "C"⟩] := by
  decide

/-- A missing text is met before the entries above come back to the first. -/
example :
    let table : NameTable := ⟨["a"], [⟨some 1, 0, .package⟩, ⟨some 0, 7, .type⟩]⟩
    table.segments 0 = .error (.unknownName 7) := by
  decide

end RecordDerive.Metadata.NameTable
