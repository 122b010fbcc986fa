import RecordDerive.Proofs.Declaration.Extraction
import RecordDerive.Proofs.Round.Session

/-!
# What rounds accumulate

The handles presented in some rounds, with what came of each, are a history.  The
accumulator holds what the history says should stand: the declaration of every
handle whose latest sighting succeeded, in the order in which the handles have stood
without a failure.
-/

namespace RecordDerive

open Code (Abort Generation)
open Ledger (handles put drop)
open Output (Writer)

variable {H : Type}

/-! ## Histories -/

/-- A handle that was presented, and what came of it. -/
structure Sighting (H : Type) where
  handle : H
  result : Except DeclarationFault (Declaration H)
  sound : ∀ declaration, result = .ok declaration →
    declaration.handle = handle ∧ declaration.arity ≤ maxArity

namespace Sighting

/-- A handle presented while a source answers for it. -/
def of (source : Source H) (handle : H) : Sighting H :=
  ⟨handle, source.accept handle, fun _ accepted => (Source.accept_eq_ok accepted).2⟩

/-- The sightings of some rounds, in the order of the rounds and of the handles in
each. -/
def ofRounds (rounds : List (Source H × List H)) : List (Sighting H) :=
  rounds.flatMap fun round => round.2.map (of round.1)

def Succeeds (sighting : Sighting H) : Prop :=
  ∃ declaration, sighting.result = .ok declaration

end Sighting

namespace History

/-- A sighting after which its handle was not presented any more. -/
structure Latest (history : List (Sighting H)) (index : Nat) (sighting : Sighting H) : Prop where
  seen : history[index]? = some sighting
  last : ∀ later other, index < later → history[later]? = some other →
    other.handle ≠ sighting.handle

/-- The first success of a handle after its last failure, or its first success if it
never failed. -/
structure StandsSince (history : List (Sighting H)) (handle : H) (index : Nat) : Prop where
  success : ∃ sighting, history[index]? = some sighting ∧ sighting.handle = handle ∧
    sighting.Succeeds
  unfailed : ∀ later sighting, index < later → history[later]? = some sighting →
    sighting.handle = handle → sighting.Succeeds
  first : ∀ earlier sighting, earlier < index → history[earlier]? = some sighting →
    sighting.handle = handle → sighting.Succeeds →
    ∃ between failure, earlier < between ∧ between < index ∧
      history[between]? = some failure ∧ failure.handle = handle ∧ ¬failure.Succeeds

/-- Two handles that stand, the first for longer. -/
def Precedes (history : List (Sighting H)) (first second : H) : Prop :=
  ∃ earlier later, StandsSince history first earlier ∧ StandsSince history second later ∧
    earlier < later

/-- Declarations that are what a history should leave: those of the latest successes,
each handle once, in the order in which the handles have stood. -/
structure Accumulated (history : List (Sighting H)) (declarations : List (Declaration H)) :
    Prop where
  distinct : (handles declarations).Nodup
  latest : ∀ declaration, declaration ∈ declarations ↔
    ∃ sighting, (∃ index, Latest history index sighting) ∧
      sighting.handle = declaration.handle ∧ sighting.result = .ok declaration
  stands : ∀ handle ∈ handles declarations, ∃ index, StandsSince history handle index
  ordered : (handles declarations).Pairwise (Precedes history)
  narrow : ∀ declaration ∈ declarations, declaration.arity ≤ maxArity

variable {history : List (Sighting H)} {sighting : Sighting H}

/-- A handle has stood since one moment at most. -/
theorem StandsSince.unique {handle : H} {index other : Nat}
    (since : StandsSince history handle index) (since' : StandsSince history handle other) :
    index = other := by
  have impossible {early late : Nat} (first : StandsSince history handle early)
      (second : StandsSince history handle late) : ¬early < late := by
    intro before
    obtain ⟨sighting, seen, same, succeeds⟩ := first.success
    obtain ⟨between, failure, after, -, seen, same, fails⟩ :=
      second.first early sighting before seen same succeeds
    exact fails (first.unfailed between failure after seen same)
  exact Nat.le_antisymm (Nat.not_lt.mp (impossible since' since))
    (Nat.not_lt.mp (impossible since since'))

theorem lt_of_seen {index : Nat} (seen : history[index]? = some sighting) :
    index < history.length :=
  (List.getElem?_eq_some_iff.mp seen).1

theorem StandsSince.lt_length {handle : H} {index : Nat}
    (since : StandsSince history handle index) : index < history.length := by
  obtain ⟨sighting, seen, -⟩ := since.success
  exact lt_of_seen seen

/-- Every handle that was presented has a latest sighting. -/
theorem exists_latest {index : Nat} {sighting : Sighting H}
    (seen : history[index]? = some sighting) :
    ∃ last other, index ≤ last ∧ Latest history last other ∧
      other.handle = sighting.handle := by
  rcases Classical.em (∃ later other, index < later ∧ history[later]? = some other ∧
    other.handle = sighting.handle) with ⟨later, other, after, seen', same⟩ | none
  · have bound := lt_of_seen seen'
    obtain ⟨last, final, beyond, latest, same'⟩ := exists_latest seen'
    exact ⟨last, final, by omega, latest, same'.trans same⟩
  · refine ⟨index, sighting, Nat.le_refl _, ⟨seen, ?_⟩, rfl⟩
    intro later other after seen' same
    exact none ⟨later, other, after, seen', same⟩
termination_by history.length - index

/-! ## One more sighting -/

theorem seen_append {index : Nat} {other : Sighting H} :
    (history ++ [sighting])[index]? = some other ↔
      history[index]? = some other ∨ index = history.length ∧ sighting = other := by
  rw [List.getElem?_append]
  split
  next inside =>
    constructor
    · exact .inl
    · rintro (seen | ⟨equal, -⟩)
      · exact seen
      · omega
  next outside =>
    rw [List.getElem?_singleton, List.getElem?_eq_none (Nat.not_lt.mp outside)]
    split
    next first =>
      constructor
      · intro same
        exact .inr ⟨by omega, Option.some.inj same⟩
      · rintro (absent | ⟨-, same⟩)
        · cases absent
        · exact congrArg some same
    next beyond =>
      constructor
      · intro absent
        cases absent
      · rintro (absent | ⟨equal, -⟩)
        · cases absent
        · omega

/-- One more sighting is the latest one of its handle, and leaves those of the
others. -/
theorem exists_latest_append {other : Sighting H} :
    (∃ index, Latest (history ++ [sighting]) index other) ↔
      other = sighting ∨
        sighting.handle ≠ other.handle ∧ ∃ index, Latest history index other := by
  constructor
  · rintro ⟨index, seen, last⟩
    rcases seen_append.mp seen with seen' | ⟨rfl, rfl⟩
    · refine .inr ⟨?_, index, seen', ?_⟩
      · exact last history.length sighting (lt_of_seen seen') (seen_append.mpr (.inr ⟨rfl, rfl⟩))
      · intro later another after seen''
        exact last later another after (seen_append.mpr (.inl seen''))
    · exact .inl rfl
  · rintro (rfl | ⟨apart, index, seen, last⟩)
    · refine ⟨history.length, seen_append.mpr (.inr ⟨rfl, rfl⟩), ?_⟩
      intro later another after seen
      have bound := lt_of_seen seen
      rw [List.length_append, List.length_singleton] at bound
      omega
    · refine ⟨index, seen_append.mpr (.inl seen), ?_⟩
      intro later another after seen'
      rcases seen_append.mp seen' with seen'' | ⟨rfl, rfl⟩
      · exact last later another after seen''
      · exact apart

/-- A handle goes on standing unless it fails. -/
theorem StandsSince.append {handle : H} {index : Nat} (since : StandsSince history handle index)
    (kept : sighting.handle = handle → sighting.Succeeds) :
    StandsSince (history ++ [sighting]) handle index where
  success := by
    obtain ⟨first, seen, succeeds⟩ := since.success
    exact ⟨first, seen_append.mpr (.inl seen), succeeds⟩
  unfailed := by
    intro later other after seen same
    rcases seen_append.mp seen with seen' | ⟨-, rfl⟩
    · exact since.unfailed later other after seen' same
    · exact kept same
  first := by
    intro earlier other before seen same succeeds
    rcases seen_append.mp seen with seen' | ⟨rfl, -⟩
    · obtain ⟨between, failure, after, before, seen, fails⟩ :=
        since.first earlier other before seen' same succeeds
      exact ⟨between, failure, after, before, seen_append.mpr (.inl seen), fails⟩
    · exact absurd before (Nat.lt_asymm since.lt_length)

/-- A handle that does not stand does so from its next success on. -/
theorem StandsSince.begin (succeeds : sighting.Succeeds)
    (fallen : ∀ index other, Latest history index other → other.handle = sighting.handle →
      ¬other.Succeeds) :
    StandsSince (history ++ [sighting]) sighting.handle history.length where
  success := ⟨sighting, seen_append.mpr (.inr ⟨rfl, rfl⟩), rfl, succeeds⟩
  unfailed := by
    intro later other after seen
    have bound := lt_of_seen seen
    rw [List.length_append, List.length_singleton] at bound
    omega
  first := by
    intro earlier other before seen same succeeds'
    rcases seen_append.mp seen with seen' | ⟨rfl, -⟩
    · obtain ⟨last, failure, after, latest, same'⟩ := exists_latest seen'
      have fails := fallen last failure latest (same'.trans same)
      refine ⟨last, failure, ?_, lt_of_seen latest.seen, seen_append.mpr (.inl latest.seen),
        same'.trans same, fails⟩
      -- The latest sighting is another one than that success, because it failed.
      rcases Nat.eq_or_lt_of_le after with rfl | beyond
      · rw [latest.seen] at seen'
        cases seen'
        exact absurd succeeds' fails
      · exact beyond
    · exact absurd before (Nat.lt_irrefl _)

theorem Precedes.append {first second : H} (precedes : Precedes history first second)
    (keptFirst : sighting.handle = first → sighting.Succeeds)
    (keptSecond : sighting.handle = second → sighting.Succeeds) :
    Precedes (history ++ [sighting]) first second := by
  obtain ⟨earlier, later, sinceFirst, sinceSecond, before⟩ := precedes
  exact ⟨earlier, later, sinceFirst.append keptFirst, sinceSecond.append keptSecond, before⟩

namespace Accumulated

theorem nil : Accumulated ([] : List (Sighting H)) [] where
  distinct := List.nodup_nil
  latest := by
    intro declaration
    constructor
    · intro member
      cases member
    · rintro ⟨sighting, ⟨index, seen, -⟩, -⟩
      cases seen
  stands := by
    intro handle member
    cases member
  ordered := .nil
  narrow := by
    intro declaration member
    cases member

variable {declarations : List (Declaration H)}

/-- No latest sighting of a handle that is not among the declarations succeeded. -/
theorem fallen (accumulated : Accumulated history declarations) {handle : H}
    (unknown : handle ∉ handles declarations) {index : Nat} {other : Sighting H}
    (latest : Latest history index other) (same : other.handle = handle) : ¬other.Succeeds := by
  rintro ⟨declaration, succeeded⟩
  have named := (other.sound declaration succeeded).1
  have member := (accumulated.latest declaration).mpr
    ⟨other, ⟨index, latest⟩, named.symm, succeeded⟩
  exact unknown (Ledger.mem_handles.mpr ⟨declaration, member, named.trans same⟩)

variable [DecidableEq H]

/-- The declarations after a handle succeeded. -/
theorem succeed (accumulated : Accumulated history declarations) {declaration : Declaration H}
    (succeeded : sighting.result = .ok declaration) :
    Accumulated (history ++ [sighting]) (put declaration declarations) := by
  obtain ⟨named, fits⟩ := sighting.sound declaration succeeded
  have succeeds : sighting.Succeeds := ⟨declaration, succeeded⟩
  -- The handle keeps its place if it stands; if not, it stands from this sighting on, behind
  -- all others.
  refine ⟨Ledger.nodup_put accumulated.distinct, ?latest, ?stands, ?ordered, ?narrow⟩
  case latest =>
    intro other
    rw [Ledger.mem_put accumulated.distinct, accumulated.latest]
    constructor
    · rintro (rfl | ⟨⟨old, latest, same, succeeded'⟩, apart⟩)
      · exact ⟨sighting, exists_latest_append.mpr (.inl rfl), named.symm, succeeded⟩
      · refine ⟨old, exists_latest_append.mpr (.inr ⟨?_, latest⟩), same, succeeded'⟩
        intro equal
        exact apart (same.symm.trans (equal.symm.trans named.symm))
    · rintro ⟨found, latest, same, succeeded'⟩
      rcases exists_latest_append.mp latest with rfl | ⟨apart, latest⟩
      · rw [succeeded] at succeeded'
        cases succeeded'
        exact .inl rfl
      · refine .inr ⟨⟨found, latest, same, succeeded'⟩, ?_⟩
        intro equal
        exact apart (named.symm.trans (equal.symm.trans same.symm))
  case stands =>
    intro handle member
    rcases Decidable.em (handle ∈ handles declarations) with known | unknown
    · obtain ⟨index, since⟩ := accumulated.stands handle known
      exact ⟨index, since.append fun _ => succeeds⟩
    · obtain ⟨other, member', rfl⟩ := Ledger.mem_handles.mp member
      rcases (Ledger.mem_put accumulated.distinct).mp member' with rfl | ⟨old, -⟩
      · rw [named] at unknown ⊢
        exact ⟨history.length, .begin succeeds fun _ _ => accumulated.fallen unknown⟩
      · exact absurd (Ledger.mem_handles.mpr ⟨other, old, rfl⟩) unknown
  case ordered =>
    have kept := accumulated.ordered.imp fun precedes =>
      Precedes.append precedes (fun _ => succeeds) fun _ => succeeds
    rcases Decidable.em (declaration.handle ∈ handles declarations) with known | unknown
    · rw [Ledger.put_of_mem known]
      exact kept
    · rw [Ledger.put_of_not_mem unknown, Ledger.handles_append]
      refine List.pairwise_append.mpr ⟨kept, List.pairwise_singleton _ _, ?_⟩
      intro handle member last single
      rw [Ledger.handles_cons, Ledger.handles_nil, List.mem_singleton] at single
      obtain ⟨index, since⟩ := accumulated.stands handle member
      rw [single]
      rw [named] at unknown ⊢
      exact ⟨index, history.length, since.append fun _ => succeeds,
        .begin succeeds fun _ _ => accumulated.fallen unknown, since.lt_length⟩
  case narrow =>
    intro other member
    rcases (Ledger.mem_put accumulated.distinct).mp member with rfl | ⟨old, -⟩
    · exact fits
    · exact accumulated.narrow other old

/-- The declarations after a handle failed. -/
theorem fail (accumulated : Accumulated history declarations) (fails : ¬sighting.Succeeds) :
    Accumulated (history ++ [sighting]) (drop sighting.handle declarations) := by
  -- What is left has other handles, whose histories the failure does not touch.
  have kept {handle : H} (member : handle ∈ handles (drop sighting.handle declarations)) :
      sighting.handle ≠ handle ∧ handle ∈ handles declarations := by
    obtain ⟨declaration, member', rfl⟩ := Ledger.mem_handles.mp member
    obtain ⟨old, apart⟩ := Ledger.mem_drop.mp member'
    exact ⟨apart.symm, Ledger.mem_handles.mpr ⟨declaration, old, rfl⟩⟩
  refine ⟨Ledger.nodup_drop sighting.handle accumulated.distinct, ?latest, ?stands, ?ordered,
    ?narrow⟩
  case latest =>
    intro other
    rw [Ledger.mem_drop, accumulated.latest]
    constructor
    · rintro ⟨⟨old, latest, same, succeeded⟩, apart⟩
      refine ⟨old, exists_latest_append.mpr (.inr ⟨?_, latest⟩), same, succeeded⟩
      intro equal
      exact apart (same.symm.trans equal.symm)
    · rintro ⟨found, latest, same, succeeded⟩
      rcases exists_latest_append.mp latest with rfl | ⟨apart, latest⟩
      · exact absurd ⟨other, succeeded⟩ fails
      · exact ⟨⟨found, latest, same, succeeded⟩, fun equal => apart (equal.symm.trans same.symm)⟩
  case stands =>
    intro handle member
    obtain ⟨apart, old⟩ := kept member
    obtain ⟨index, since⟩ := accumulated.stands handle old
    exact ⟨index, since.append fun same => absurd same apart⟩
  case ordered =>
    have ordered := accumulated.ordered.sublist
      ((Ledger.drop_sublist sighting.handle declarations).map (·.handle))
    refine ordered.imp_of_mem ?_
    intro first second memberFirst memberSecond precedes
    exact precedes.append (fun same => absurd same (kept memberFirst).1)
      fun same => absurd same (kept memberSecond).1
  case narrow =>
    intro other member
    exact accumulated.narrow other (Ledger.mem_drop.mp member).1

/-- A presented handle succeeds or fails, and the tally follows. -/
theorem present {tally : Tally H} (accumulated : Accumulated history tally.declarations)
    (source : Source H) (handle : H) :
    Accumulated (history ++ [Sighting.of source handle]) (tally.present source handle).declarations := by
  rw [Tally.present]
  cases accepted : source.accept handle with
  | ok declaration =>
      have succeeded : (Sighting.of source handle).result = .ok declaration := accepted
      exact accumulated.succeed succeeded
  | error fault =>
      have fails : ¬(Sighting.of source handle).Succeeds := by
        rintro ⟨declaration, succeeded⟩
        cases accepted.symm.trans succeeded
      exact accumulated.fail fails

theorem gather (source : Source H) (presented : List H) {tally : Tally H}
    (accumulated : Accumulated history tally.declarations) :
    Accumulated (history ++ presented.map (Sighting.of source))
      (presented.foldl (Tally.present source) tally).declarations := by
  induction presented generalizing history tally with
  | nil =>
      rw [List.map_nil, List.append_nil]
      exact accumulated
  | cons handle presented ih =>
      have after := ih (accumulated.present source handle)
      rw [List.append_assoc] at after
      exact after

end Accumulated

end History

/-! ## Runs -/

namespace Processor

open History (Accumulated)

variable {W : Type} [DecidableEq H] [Hashable H] [Writer W]

/-- Rounds that are not final collect what their history leaves. -/
theorem follow_gathering (rounds : List (Source H × List H)) {processor : Processor H W}
    {history : List (Sighting H)} {declarations : List (Declaration H)}
    (collects : processor.accumulator.Collects declarations)
    (accumulated : Accumulated history declarations) :
    ∃ reports reached gathered,
      processor.follow (rounds.map fun round => .gathering round.1 round.2) =
        .ok (reports, reached) ∧
      (∀ report ∈ reports, ∃ outcome, report.outcome = .ok outcome) ∧
      reached.config = processor.config ∧
      reached.accumulator.Collects gathered ∧
      Accumulated (history ++ Sighting.ofRounds rounds) gathered := by
  induction rounds generalizing processor history declarations with
  | nil =>
      refine ⟨[], processor, declarations, rfl, nofun, rfl, collects, ?_⟩
      rw [Sighting.ofRounds, List.flatMap_nil, List.append_nil]
      exact accumulated
  | cons round rounds ih =>
      obtain ⟨reports, reached, gathered, followed, succeeded, config, collected, left⟩ :=
        ih (gather_collects collects round.1 round.2)
          (Accumulated.gather round.1 round.2 accumulated)
      have first : processor.onRound (Visit.gathering round.1 round.2).source
          (Visit.gathering round.1 round.2).handles (Visit.gathering round.1 round.2).isFinal = _ :=
        onRound_gathers collects round.1 round.2
      have whole := follow_cons first (rounds.map fun round => .gathering round.1 round.2)
      dsimp only at whole
      rw [followed] at whole
      refine ⟨_, reached, gathered, whole, ?_, config, collected, ?_⟩
      · intro report member
        rcases List.mem_cons.mp member with rfl | member
        · exact ⟨_, rfl⟩
        · exact succeeded report member
      · rw [List.append_assoc] at left
        exact left

/-- After rounds that are not final, a fresh processor has exactly what their history
leaves; and a final round generates from what the history leaves with the handles of
that round added to it. -/
theorem follow_accumulates (writer : W) (config : Config) (rounds : List (Source H × List H)) :
    ∃ reports reached,
      (Processor.new writer config).follow
          (rounds.map fun round => .gathering round.1 round.2) = .ok (reports, reached) ∧
      (∀ report ∈ reports, ∃ outcome, report.outcome = .ok outcome) ∧
      Accumulated (Sighting.ofRounds rounds) reached.accumulator.snapshot ∧
      ∀ source handles, ∃ gathered diagnostics outcome,
        reached.onRound source handles false = .ok ⟨gathered, diagnostics, .ok outcome⟩ ∧
        Accumulated (Sighting.ofRounds (rounds ++ [(source, handles)]))
          gathered.accumulator.snapshot ∧
        reached.onRound source handles true =
          (Code.generate gathered.accumulator.snapshot config).map
            (gathered.close diagnostics outcome) := by
  obtain ⟨reports, reached, declarations, followed, succeeded, unchanged, collects, left⟩ :=
    @follow_gathering H W _ _ _ rounds (.new writer config) [] [] .empty .nil
  refine ⟨reports, reached, followed, succeeded, ?_, ?_⟩
  · rw [Accumulator.snapshot, collects.entries]
    exact left
  · intro source presented
    have collects' := gather_collects collects source presented
    refine ⟨reached.gather source presented, _, _, onRound_gathers collects source presented,
      ?_, ?_⟩
    · rw [Accumulator.snapshot, collects'.entries]
      have left' : Accumulated (Sighting.ofRounds rounds)
        (Tally.declarations ⟨declarations, .empty, {}⟩) := left
      rw [Sighting.ofRounds, List.flatMap_append, List.flatMap_singleton]
      exact left'.gather source presented
    · rw [Accumulator.snapshot, collects'.entries, onRound_closes collects, unchanged]
      rfl

end Processor

end RecordDerive
