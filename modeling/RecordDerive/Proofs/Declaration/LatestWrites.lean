import Mathlib.Data.List.Nodup
import RecordDerive.Proofs.Declaration.Registration

/-!
# A registry is a table of latest writes

Calls are carried out write by write on the registry itself, so that it can be seen what a
call leaves behind that fails on its way.  A call that fails leaves nothing behind: an
update looks up its entry, resolves the name and has the bytes before its first write.
Therefore a registry tells of every handle what the latest successful call wrote there,
and handles are given out one after the other.

How a description becomes bytes is left open, and so is whether it can: nothing here
depends on it.
-/

namespace RecordDerive

open Metadata

/-- What an entry is read as. -/
def RegistryEntry.described : RegistryEntry → Except Fault Description
  | ⟨label, none⟩ => .error (.missing label)
  | ⟨_, some bytes⟩ => Description.decode bytes

namespace Registry

/-! ## Calls -/

/-- What a registry can be asked. -/
inductive Call
  | register (description : Description)
  | insertRaw (label : String) (bytes : List UInt8)
  | insertMissing (label : String)
  | update (id : DeclarationId) (description : Description)

/-- What a call is answered that succeeds. -/
inductive Answer
  | issued (id : DeclarationId)
  | updated
  deriving Repr, DecidableEq

/-- How descriptions become bytes. -/
abbrev Encoder := Description → Except Fault (List UInt8)

/-- The encoding of descriptions, which never fails. -/
def encoding : Encoder := fun description => .ok description.encode

/-- Work on a registry in place: a fault ends it, and what was written before stays. -/
abbrev Work := ExceptT Fault (StateM Registry)

/-- The result of work on a registry, and the registry behind it. -/
def run {α : Type} (work : Work α) (registry : Registry) : Except Fault α × Registry :=
  ExceptT.run work registry

/-- Put an entry behind the others. -/
def issue (entry : RegistryEntry) : Work Answer :=
  modifyGet fun registry => ((registry.push entry).map .issued id)

/-- Write a label over the one under a handle. -/
def writeLabel (id : DeclarationId) (label : String) : Work Unit :=
  modify fun registry => ⟨registry.entries.modify id.number.toNat ({ · with label })⟩

/-- Write bytes over those under a handle. -/
def writeBytes (id : DeclarationId) (bytes : List UInt8) : Work Unit :=
  modify fun registry => ⟨registry.entries.modify id.number.toNat ({ · with bytes := some bytes })⟩

/-- The steps of a call. -/
def steps (encoder : Encoder) : Call → Work Answer
  | .register description => do
    let label ← description.names.qualifiedName description.name
    let bytes ← encoder description
    issue ⟨label, some bytes⟩
  | .insertRaw label bytes => issue ⟨label, some bytes⟩
  | .insertMissing label => issue ⟨label, none⟩
  | .update id description => do
    let bytes ← encoder description
    let registry ← get
    match registry.entry? id with
    | none => throw (.missing id.text)
    | some _ =>
      writeLabel id (← description.names.qualifiedName description.name)
      writeBytes id bytes
      return .updated

/-- The answer to a call, and the registry that its steps lead to. -/
def perform (encoder : Encoder) (call : Call) (registry : Registry) :
    Except Fault Answer × Registry :=
  run (steps encoder call) registry

/-- The answer to a call, with a registry behind it only if there is no fault. -/
def ask (registry : Registry) : Call → Except Fault (Answer × Registry)
  | .register description => .map .issued id <$> registry.register description
  | .insertRaw label bytes => .ok ((registry.insertRaw label bytes).map .issued id)
  | .insertMissing label => .ok ((registry.insertMissing label).map .issued id)
  | .update id description => (.updated, ·) <$> registry.update id description

/-! ## What one call comes to -/

/-- The entry that a call writes. -/
inductive Call.Writes (encoder : Encoder) : Call → RegistryEntry → Prop
  | register {description : Description} {label : String} {bytes : List UInt8}
      (named : description.names.qualifiedName description.name = .ok label)
      (encoded : encoder description = .ok bytes) :
      Writes encoder (.register description) ⟨label, some bytes⟩
  | insertRaw (label : String) (bytes : List UInt8) :
      Writes encoder (.insertRaw label bytes) ⟨label, some bytes⟩
  | insertMissing (label : String) : Writes encoder (.insertMissing label) ⟨label, none⟩
  | update {description : Description} {label : String} {bytes : List UInt8} (id : DeclarationId)
      (named : description.names.qualifiedName description.name = .ok label)
      (encoded : encoder description = .ok bytes) :
      Writes encoder (.update id description) ⟨label, some bytes⟩

/-- The description that a call brings. -/
def Call.description? : Call → Option Description
  | .register description | .update _ description => some description
  | .insertRaw .. | .insertMissing _ => none

/-- The handle of the entry that a call replaces. -/
def Call.target? : Call → Option DeclarationId
  | .update id _ => some id
  | .register _ | .insertRaw .. | .insertMissing _ => none

/-- Why a call is refused. -/
inductive Call.Refused (encoder : Encoder) (registry : Registry) (call : Call) : Fault → Prop
  | unnamed {description : Description} {fault : Fault}
      (brought : call.description? = some description)
      (unnamed : description.names.qualifiedName description.name = .error fault) :
      Refused encoder registry call fault
  | unencoded {description : Description} {fault : Fault}
      (brought : call.description? = some description)
      (unencoded : encoder description = .error fault) : Refused encoder registry call fault
  | absent {id : DeclarationId} (target : call.target? = some id)
      (absent : registry.entry? id = none) : Refused encoder registry call (.missing id.text)

/-- All that a call can come to. -/
inductive Comes (encoder : Encoder) (registry : Registry) (call : Call) :
    Except Fault Answer × Registry → Prop
  | refused {fault : Fault} (refused : call.Refused encoder registry fault) :
      Comes encoder registry call (.error fault, registry)
  | issued {entry : RegistryEntry} (untargeted : call.target? = none)
      (writes : call.Writes encoder entry) :
      Comes encoder registry call (.ok (.issued (registry.push entry).1), (registry.push entry).2)
  | updated {before entry : RegistryEntry} {id : DeclarationId} (target : call.target? = some id)
      (found : registry.entry? id = some before) (writes : call.Writes encoder entry) :
      Comes encoder registry call (.ok .updated, ⟨registry.entries.set id.number.toNat entry⟩)

/-- Both halves of an entry are written, whatever it was before. -/
theorem modify_halves (entries : List RegistryEntry) (place : Nat) (label : String)
    (bytes : List UInt8) :
    (entries.modify place ({ · with label })).modify place ({ · with bytes := some bytes }) =
      entries.set place ⟨label, some bytes⟩ := by
  rw [List.modify_modify_eq, List.set_eq_modify]
  rfl

theorem run_bind {α β : Type} (work : Work α) (next : α → Work β) (registry : Registry) :
    run (work >>= next) registry = match run work registry with
      | (.ok value, later) => run (next value) later
      | (.error fault, later) => (.error fault, later) := by
  unfold run ExceptT.run
  simp only [bind, ExceptT.bind, ExceptT.mk, StateT.bind, ExceptT.bindCont]
  cases work registry with
  | mk result later =>
    cases result with
    | ok value => rfl
    | error fault => rfl

@[simp] theorem run_liftM {α : Type} (result : Except Fault α) (registry : Registry) :
    run (liftM result) registry = (result, registry) := rfl

@[simp] theorem run_get (registry : Registry) : run get registry = (.ok registry, registry) := rfl

/-- Writing both halves of an entry replaces it, whatever it was before. -/
theorem run_writes (id : DeclarationId) (label : String) (bytes : List UInt8)
    (registry : Registry) :
    run (do writeLabel id label; writeBytes id bytes; return Answer.updated) registry =
      (.ok .updated, ⟨registry.entries.set id.number.toNat ⟨label, some bytes⟩⟩) := by
  rw [← modify_halves]
  rfl

variable {encoder : Encoder} {registry : Registry} {call : Call}

theorem perform_register (encoder : Encoder) (description : Description) (registry : Registry) :
    Comes encoder registry (.register description)
      (perform encoder (.register description) registry) := by
  rw [perform, steps]
  simp only [run_bind, run_liftM]
  cases named : description.names.qualifiedName description.name with
  | error fault => exact .refused (.unnamed rfl named)
  | ok label =>
    cases encoded : encoder description with
    | error fault => exact .refused (.unencoded rfl encoded)
    | ok bytes => exact .issued rfl (.register named encoded)

/-- An update for which there are bytes looks up its entry and then its name. -/
theorem perform_update_of_encoded {description : Description} {bytes : List UInt8}
    (encoded : encoder description = .ok bytes) (id : DeclarationId) (registry : Registry) :
    perform encoder (.update id description) registry =
      match registry.entry? id, description.names.qualifiedName description.name with
      | none, _ => (.error (.missing id.text), registry)
      | some _, .error fault => (.error fault, registry)
      | some _, .ok label =>
        (.ok .updated, ⟨registry.entries.set id.number.toNat ⟨label, some bytes⟩⟩) := by
  rw [perform, steps]
  simp only [run_bind, run_liftM, run_get, encoded]
  cases registry.entry? id with
  | none => rfl
  | some before =>
    dsimp only
    rw [run_bind, run_liftM]
    cases description.names.qualifiedName description.name with
    | error fault => rfl
    | ok label => exact run_writes id label bytes registry

theorem perform_update (encoder : Encoder) (id : DeclarationId) (description : Description)
    (registry : Registry) :
    Comes encoder registry (.update id description)
      (perform encoder (.update id description) registry) := by
  cases encoded : encoder description with
  | error fault =>
    rw [perform, steps, encoded]
    exact .refused (.unencoded rfl encoded)
  | ok bytes =>
    rw [perform_update_of_encoded encoded]
    cases found : registry.entry? id with
    | none => exact .refused (.absent rfl found)
    | some before =>
      cases named : description.names.qualifiedName description.name with
      | error fault => exact .refused (.unnamed rfl named)
      | ok label => exact .updated rfl found (.update id named encoded)

theorem perform_comes (encoder : Encoder) (call : Call) (registry : Registry) :
    Comes encoder registry call (perform encoder call registry) := by
  cases call with
  | register description => exact perform_register encoder description registry
  | insertRaw label bytes => exact .issued rfl (.insertRaw label bytes)
  | insertMissing label => exact .issued rfl (.insertMissing label)
  | update id description => exact perform_update encoder id description registry

/-- Carried out in place, calls come to what they come to on registries as values: a fault
comes with the registry from before. -/
theorem perform_encoding (call : Call) (registry : Registry) :
    perform encoding call registry =
      match registry.ask call with
      | .ok (answer, later) => (.ok answer, later)
      | .error fault => (.error fault, registry) := by
  cases call with
  | register description =>
    rw [perform, steps, ask, Registry.register]
    simp only [run_bind, run_liftM]
    cases description.names.qualifiedName description.name with
    | error fault => rfl
    | ok label => rfl
  | insertRaw label bytes => rfl
  | insertMissing label => rfl
  | update id description =>
    rw [perform_update_of_encoded rfl, ask, Registry.update]
    cases registry.entry? id with
    | none => rfl
    | some before =>
      cases description.names.qualifiedName description.name with
      | error fault => rfl
      | ok label => rfl

/-! ## Histories -/

/-- The calls that were made, each with its answer. -/
abbrev History := List (Call × Except Fault Answer)

/-- Answer calls one after the other; a fault ends its own call only. -/
def serve (encoder : Encoder) : List Call → Registry → History × Registry
  | [], registry => ([], registry)
  | call :: calls, registry =>
      let (answer, later) := perform encoder call registry
      let (history, last) := serve encoder calls later
      ((call, answer) :: history, last)

namespace History

/-- The handle that a call gave out. -/
def issued? : Call × Except Fault Answer → Option DeclarationId
  | (_, .ok (.issued id)) => some id
  | (_, .ok .updated) | (_, .error _) => none

/-- The handle under which a call wrote. -/
def written? : Call × Except Fault Answer → Option DeclarationId
  | (_, .ok (.issued id)) => some id
  | (call, .ok .updated) => call.target?
  | (_, .error _) => none

/-- The handles that were given out, in order. -/
def issued (history : History) : List DeclarationId :=
  history.filterMap issued?

/-- The latest call that wrote under a handle wrote the entry. -/
def Latest (encoder : Encoder) (history : History) (id : DeclarationId) (entry : RegistryEntry) :
    Prop :=
  ∃ before made after, history = before ++ made :: after ∧ written? made = some id ∧
    made.1.Writes encoder entry ∧ ∀ later ∈ after, written? later ≠ some id

variable {history : History} {made : Call × Except Fault Answer} {id : DeclarationId}
  {entry : RegistryEntry}

theorem issued_concat (history : History) (made : Call × Except Fault Answer) :
    issued (history ++ [made]) = history.issued ++ (issued? made).toList := by
  rw [issued, List.filterMap_append, issued]
  cases given : issued? made with
  | none => simp [given]
  | some id => simp [given]

theorem Latest.here (history : History) (written : written? made = some id)
    (writes : made.1.Writes encoder entry) : Latest encoder (history ++ [made]) id entry :=
  ⟨history, made, [], rfl, written, writes, List.forall_mem_nil _⟩

theorem Latest.behind (latest : Latest encoder history id entry) (other : written? made ≠ some id) :
    Latest encoder (history ++ [made]) id entry := by
  obtain ⟨before, writer, after, rfl, written, writes, untouched⟩ := latest
  refine ⟨before, writer, after ++ [made], by simp, written, writes, ?_⟩
  intro later member
  rcases List.mem_append.mp member with among | last
  · exact untouched later among
  · rw [List.mem_singleton.mp last]
    exact other

end History

/-- The handle of the entry at a place. -/
def handle (place : Nat) : DeclarationId :=
  ⟨UInt32.ofNat place⟩

theorem handle_number (id : DeclarationId) : handle id.number.toNat = id := by
  rw [handle, UInt32.ofNat_toNat]

theorem number_handle {place : Nat} (room : place < indexBound) :
    (handle place).number.toNat = place :=
  UInt32.toNat_ofNat_of_lt' room

theorem handle_inj {place other : Nat} (room : place < indexBound) (otherRoom : other < indexBound)
    (same : handle place = handle other) : place = other := by
  rw [← number_handle room, same, number_handle otherRoom]

/-- What a registry tells of a handle with an entry. -/
theorem describe_of_entry {id : DeclarationId} {entry : RegistryEntry}
    (held : registry.entry? id = some entry) :
    registry.label id = entry.label ∧ registry.describe id = entry.described := by
  rw [label, describe, held]
  rcases entry with ⟨label, bytes⟩
  cases bytes with
  | none => exact ⟨rfl, rfl⟩
  | some bytes => exact ⟨rfl, rfl⟩

/-- A history tells of a registry which handles it gave out, and of every handle what stands
under it. -/
structure Tells (encoder : Encoder) (history : History) (registry : Registry) : Prop where
  issued : history.issued = (List.range registry.entries.length).map handle
  latest : ∀ place entry, registry.entries[place]? = some entry →
    History.Latest encoder history (handle place) entry

theorem tells_empty (encoder : Encoder) : Tells encoder [] empty where
  issued := rfl
  latest := by
    intro place entry held
    rw [empty, List.getElem?_nil] at held
    cases held

/-- Calls take no entry away. -/
theorem length_le_perform (encoder : Encoder) (call : Call) (registry : Registry) :
    registry.entries.length ≤ (perform encoder call registry).2.entries.length := by
  have comes := perform_comes encoder call registry
  generalize perform encoder call registry = result at comes ⊢
  cases comes with
  | refused refused => exact Nat.le_refl _
  | issued untargeted writes => simp [push]
  | updated target found writes => simp

theorem length_le_serve (encoder : Encoder) (calls : List Call) (registry : Registry) :
    registry.entries.length ≤ (serve encoder calls registry).2.entries.length := by
  induction calls generalizing registry with
  | nil => exact Nat.le_refl _
  | cons call calls ih =>
    exact (length_le_perform encoder call registry).trans (ih _)

section Steps

variable {history : History} {entry : RegistryEntry}

theorem Tells.refused (tells : Tells encoder history registry) (call : Call) (fault : Fault) :
    Tells encoder (history ++ [(call, .error fault)]) registry where
  issued := by
    rw [History.issued_concat, tells.issued]
    exact List.append_nil _
  latest place entry held := (tells.latest place entry held).behind nofun

theorem Tells.issued_push (tells : Tells encoder history registry)
    (room : registry.entries.length < indexBound) (writes : call.Writes encoder entry) :
    Tells encoder (history ++ [(call, .ok (.issued (registry.push entry).1))])
      (registry.push entry).2 where
  issued := by
    rw [History.issued_concat, tells.issued, push, List.length_append, List.length_singleton,
      List.range_succ, List.map_append]
    rfl
  latest := by
    intro place held found
    rw [push, List.getElem?_append] at found
    split at found
    next inside =>
      refine (tells.latest place held found).behind fun same => Nat.ne_of_lt inside ?_
      exact handle_inj (inside.trans room) room (Option.some.inj same).symm
    next outside =>
      obtain ⟨last, rfl⟩ : place - registry.entries.length = 0 ∧ entry = held := by
        simpa [List.getElem?_singleton] using found
      have placed : place = registry.entries.length := by omega
      rw [placed]
      exact .here history rfl writes

theorem Tells.updated {id : DeclarationId} (tells : Tells encoder history registry)
    (room : registry.entries.length ≤ indexBound) (target : call.target? = some id)
    (writes : call.Writes encoder entry) :
    Tells encoder (history ++ [(call, .ok .updated)])
      ⟨registry.entries.set id.number.toNat entry⟩ where
  issued := by
    rw [History.issued_concat, tells.issued, List.length_set]
    exact List.append_nil _
  latest := by
    intro place held found
    have written : History.written? (call, .ok .updated) = some id := target
    rw [List.getElem?_set] at found
    split at found
    next same =>
      obtain ⟨-, rfl⟩ : id.number.toNat < registry.entries.length ∧ entry = held := by
        simpa using found
      rw [← same, handle_number]
      exact .here history written writes
    next other =>
      refine (tells.latest place held found).behind fun same => other ?_
      have inside := (List.getElem?_eq_some_iff.mp found).1
      rw [Option.some.inj (written.symm.trans same), number_handle (inside.trans_le room)]

/-- What a call comes to keeps the history true. -/
theorem Tells.concat {result : Except Fault Answer × Registry}
    (tells : Tells encoder history registry) (comes : Comes encoder registry call result)
    (room : result.2.entries.length ≤ indexBound) :
    Tells encoder (history ++ [(call, result.1)]) result.2 := by
  cases comes with
  | refused refused => exact tells.refused call _
  | issued untargeted writes =>
    refine tells.issued_push (Nat.lt_of_succ_le ?_) writes
    simpa [push] using room
  | updated target found writes =>
    refine tells.updated ?_ target writes
    simpa using room

/-- A whole run keeps the history true. -/
theorem Tells.serve (tells : Tells encoder history registry)
    (calls : List Call) (room : (serve encoder calls registry).2.entries.length ≤ indexBound) :
    Tells encoder (history ++ (serve encoder calls registry).1)
      (serve encoder calls registry).2 := by
  induction calls generalizing history registry with
  | nil =>
    rw [Registry.serve, List.append_nil]
    exact tells
  | cons call calls ih =>
    have grows := length_le_serve encoder calls (perform encoder call registry).2
    have first := tells.concat (perform_comes encoder call registry) (grows.trans room)
    have rest := ih first room
    rw [List.append_assoc] at rest
    exact rest

theorem map_fst_serve (encoder : Encoder) (calls : List Call) (registry : Registry) :
    (serve encoder calls registry).1.map Prod.fst = calls := by
  induction calls generalizing registry with
  | nil => rfl
  | cons call calls ih => exact congrArg (call :: ·) (ih _)

theorem Tells.nodup (tells : Tells encoder history registry)
    (room : registry.entries.length ≤ indexBound) : history.issued.Nodup := by
  rw [tells.issued]
  refine List.Nodup.map_on ?_ List.nodup_range
  intro place member other otherMember same
  exact handle_inj ((List.mem_range.mp member).trans_le room)
    ((List.mem_range.mp otherMember).trans_le room) same

/-- What is told of handles that were given out. -/
theorem Tells.described {id : DeclarationId} (tells : Tells encoder history registry)
    (room : registry.entries.length ≤ indexBound) (issued : id ∈ history.issued) :
    ∃ entry, History.Latest encoder history id entry ∧ registry.label id = entry.label ∧
      registry.describe id = entry.described := by
  rw [tells.issued] at issued
  obtain ⟨place, member, rfl⟩ := List.mem_map.mp issued
  have inside := List.mem_range.mp member
  have held : registry.entry? (handle place) = some registry.entries[place] := by
    rw [ entry?, number_handle (inside.trans_le room), List.getElem?_eq_getElem inside]
  refine ⟨registry.entries[place], tells.latest place _ (List.getElem?_eq_getElem inside), ?_⟩
  exact describe_of_entry held

/-- What is told of all other handles. -/
theorem Tells.undescribed {id : DeclarationId} (tells : Tells encoder history registry)
    (unissued : id ∉ history.issued) :
    registry.label id = id.text ∧ registry.describe id = .error (.missing id.text) := by
  have outside : registry.entries.length ≤ id.number.toNat := by
    refine Nat.le_of_not_lt fun inside => unissued ?_
    rw [tells.issued]
    exact List.mem_map.mpr ⟨_, List.mem_range.mpr inside, handle_number id⟩
  have absent : registry.entry? id = none := List.getElem?_eq_none outside
  rw [label, describe, absent]
  exact ⟨rfl, rfl⟩

theorem of_perform_eq_error {fault : Fault} {later : Registry}
    (failed : perform encoder call registry = (.error fault, later)) :
    later = registry ∧ call.Refused encoder registry fault := by
  have comes := perform_comes encoder call registry
  rw [failed] at comes
  cases comes with
  | refused refused => exact ⟨rfl, refused⟩

end Steps

/-- Whatever calls a registry answers, it is a table of the latest writes.  It gives out the
handles from 0 on, none of them twice.  What it tells of a handle it gave out is what the
latest successful call wrote there, both label and bytes, and of other handles it knows
nothing.  A call that fails then leaves the registry as it is; and carried out in place,
every call comes to what it comes to on registries as values. -/
theorem serve_latest (encoder : Encoder) (calls : List Call) {history : History}
    {registry : Registry} (served : serve encoder calls empty = (history, registry))
    (room : registry.entries.length ≤ indexBound) :
    history.map Prod.fst = calls ∧
      history.issued = (List.range registry.entries.length).map handle ∧
      history.issued.Nodup ∧
      (∀ id ∈ history.issued, ∃ entry, History.Latest encoder history id entry ∧
        registry.label id = entry.label ∧ registry.describe id = entry.described) ∧
      (∀ id ∉ history.issued,
        registry.label id = id.text ∧ registry.describe id = .error (.missing id.text)) ∧
      (∀ call fault later, perform encoder call registry = (.error fault, later) →
        later = registry ∧ call.Refused encoder registry fault) ∧
      ∀ call, perform encoding call registry =
        match registry.ask call with
        | .ok (answer, later) => (.ok answer, later)
        | .error fault => (.error fault, registry) := by
  have ends : (serve encoder calls empty).2 = registry := congrArg Prod.snd served
  have made : (serve encoder calls empty).1 = history := congrArg Prod.fst served
  have tells : Tells encoder history registry := by
    have run := (tells_empty encoder).serve calls (ends ▸ room)
    rwa [List.nil_append, ends, made] at run
  have listed : history.map Prod.fst = calls := made ▸ map_fst_serve encoder calls empty
  exact ⟨listed, tells.issued, tells.nodup room, fun id => tells.described room,
    fun id => tells.undescribed, fun call fault later => of_perform_eq_error,
    fun call => perform_encoding call registry⟩

/-! ### A declaration that is seen before its metadata -/

/-- A description whose name encloses itself. -/
def endless : Description :=
  { point [] with name := 0, names := ⟨["x"], [⟨some 0, 0, .type⟩]⟩ }

def lateCalls : List Call :=
  [.insertMissing "geo::Ghost", .update ⟨0⟩ endless, .update ⟨0⟩ (point []),
    .update ⟨7⟩ (point []), .register endless]

theorem serve_latest_late :
    ∃ history registry, serve encoding lateCalls empty = (history, registry) ∧
      registry.entries.length ≤ indexBound ∧
      history.map Prod.snd = [.ok (.issued ⟨0⟩), .error (.cyclicName 0), .ok .updated,
        .error (.missing "#7"), .error (.cyclicName 0)] ∧
      (∃ entry, History.Latest encoding history ⟨0⟩ entry ∧ registry.label ⟨0⟩ = entry.label ∧
        registry.describe ⟨0⟩ = entry.described) ∧
      registry.label ⟨0⟩ = "geo::Point" ∧ registry.describe ⟨0⟩ = .ok (point []) := by
  have room : (serve encoding lateCalls empty).2.entries.length ≤ indexBound := by decide
  obtain ⟨-, -, -, latest, -⟩ := serve_latest encoding lateCalls rfl room
  refine ⟨_, _, rfl, room, by decide, latest ⟨0⟩ (by decide), ?_, ?_⟩
  · decide
  · decide +kernel

end Registry

end RecordDerive
