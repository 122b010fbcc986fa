import Mathlib.Data.List.Nodup
import Mathlib.Data.Nat.Digits.Defs
import RecordDerive.Proofs.Code.Promises

/-!
# Which fields share a member

A member is told by the name of its field: names that are identifiers give different members,
marked as raw or not, and none that a position gives.  Positions are told by their numbers, so
that names such as `1` and `01` give one member.  Fields with different names have different
members exactly if no two of them differ in leading zeros only; then the record made of a tuple
has every member once, and otherwise there is no such record.
-/

namespace RecordDerive

/-- The name of a field, without leading zeros if it is a position. -/
def Field.bareName (field : Field) : String :=
  if field.isPositional then String.ofList (field.name.toList.dropWhile (· == '0'))
  else field.name

/-- A field is not named by a position with a leading zero, unless it is `0` itself. -/
def Field.Trimmed (field : Field) : Prop :=
  field.isPositional = true → field.name.toList.head? = some '0' → field.name = "0"
  deriving Decidable

namespace Code

open Extraction (toOption_map_eq_some)

/-! ## Positions -/

section Positions

/-- The number that a digit stands for. -/
def digitValue (digit : Char) : Nat := digit.toNat - '0'.toNat

theorem isDigit_iff {c : Char} : c.isDigit = true ↔ 48 ≤ c.toNat ∧ c.toNat ≤ 57 := by
  rw [Char.isDigit, Bool.and_eq_true, decide_eq_true_eq, decide_eq_true_eq]
  exact Iff.rfl

theorem ofNat_digitValue {digit : Char} (decimal : digit.isDigit = true) :
    Char.ofNat (digitValue digit + 48) = digit := by
  have bounds := isDigit_iff.mp decimal
  have restored : digitValue digit + 48 = digit.toNat := Nat.sub_add_cancel bounds.1
  rw [restored, Char.ofNat_toNat]

theorem ofDigits_append (digits : List Char) (digit : Char) :
    ofDigits (digits ++ [digit]) = digitValue digit + 10 * ofDigits digits := by
  rw [ofDigits, List.foldl_append, List.foldl_cons, List.foldl_nil, ← ofDigits, digitValue]
  omega

/-- The number of some digits, told from its lowest digit on. -/
theorem ofDigits_eq (digits : List Char) :
    ofDigits digits = Nat.ofDigits 10 (digits.reverse.map digitValue) := by
  induction digits using List.reverseRecOn with
  | nil => rfl
  | append_singleton digits digit ih =>
      rw [ofDigits_append, ih, List.reverse_append, List.reverse_singleton, List.singleton_append,
        List.map_cons, Nat.ofDigits_cons]

theorem ofDigits_dropWhile (digits : List Char) :
    ofDigits (digits.dropWhile (· == '0')) = ofDigits digits := by
  induction digits with
  | nil => rfl
  | cons digit digits ih =>
      by_cases zero : digit = '0'
      · subst zero
        rw [List.dropWhile_cons_of_pos (by simp), ih]
        rfl
      · rw [List.dropWhile_cons_of_neg (by simpa using zero)]

variable {first second : List Char}

/-- Digits that do not begin with a zero are the digits of their number. -/
theorem digits_ofDigits (decimal : ∀ c ∈ first, c.isDigit = true)
    (bare : first.head? ≠ some '0') :
    Nat.digits 10 (ofDigits first) = first.reverse.map digitValue := by
  rw [ofDigits_eq]
  apply Nat.digits_ofDigits 10 (by decide)
  · intro value listed
    obtain ⟨digit, inside, rfl⟩ := List.mem_map.mp listed
    have bounds := isDigit_iff.mp (decimal digit (List.mem_reverse.mp inside))
    have zero : '0'.toNat = 48 := rfl
    rw [digitValue]
    omega
  · intro nonempty vanishes
    cases first with
    | nil => exact nonempty rfl
    | cons digit digits =>
        have last : digitValue digit = 0 := by simpa using vanishes
        have back := ofNat_digitValue (decimal digit List.mem_cons_self)
        rw [last] at back
        exact bare (congrArg some back.symm)

theorem ofDigits_injective (decimal : ∀ c ∈ first, c.isDigit = true)
    (decimal' : ∀ c ∈ second, c.isDigit = true) (bare : first.head? ≠ some '0')
    (bare' : second.head? ≠ some '0') (same : ofDigits first = ofDigits second) :
    first = second := by
  have values : first.map digitValue = second.map digitValue := by
    have reversed := digits_ofDigits decimal bare
    rw [same, digits_ofDigits decimal' bare', List.map_reverse, List.map_reverse] at reversed
    exact (List.reverse_injective reversed).symm
  have restored {digits : List Char} (decimal : ∀ c ∈ digits, c.isDigit = true) :
      (digits.map digitValue).map (fun value => Char.ofNat (value + 48)) = digits := by
    have each : ∀ c ∈ digits, ((fun value => Char.ofNat (value + 48)) ∘ digitValue) c = id c :=
      fun c listed => ofNat_digitValue (decimal c listed)
    rw [List.map_map, List.map_congr_left each, List.map_id]
  rw [← restored decimal, values, restored decimal']

/-- Digits stand for the same number exactly if they differ in leading zeros only. -/
theorem ofDigits_eq_iff (decimal : ∀ c ∈ first, c.isDigit = true)
    (decimal' : ∀ c ∈ second, c.isDigit = true) :
    ofDigits first = ofDigits second ↔
      first.dropWhile (· == '0') = second.dropWhile (· == '0') := by
  have bare (digits : List Char) : (digits.dropWhile (· == '0')).head? ≠ some '0' := by
    intro zero
    have nonzero := List.head?_dropWhile_not (· == '0') digits
    simp [zero] at nonzero
  have kept {digits : List Char} (decimal : ∀ c ∈ digits, c.isDigit = true) :
      ∀ c ∈ digits.dropWhile (· == '0'), c.isDigit = true :=
    fun c listed => decimal c ((List.dropWhile_sublist _).mem listed)
  constructor
  · intro same
    rw [← ofDigits_dropWhile first, ← ofDigits_dropWhile second] at same
    exact ofDigits_injective (kept decimal) (kept decimal') (bare first) (bare second) same
  · intro same
    rw [← ofDigits_dropWhile first, ← ofDigits_dropWhile second, same]

end Positions

/-! ## Fields with one member -/

section Fields

variable {field other : Field} {member member' : Member}

theorem digits_of_isPositional (positional : field.isPositional = true) :
    ∀ c ∈ field.name.toList, c.isDigit = true := by
  rw [Field.isPositional, Bool.and_eq_true] at positional
  exact List.all_eq_true.mp positional.2

/-- The three ways in which a field has a member: by its position, by its name, and by its name
marked as raw. -/
theorem memberOf_cases (named : memberOf field = .ok member) :
    (field.isPositional = true ∧ ∃ index : UInt32,
      index.toNat = ofDigits field.name.toList ∧ member = .position index) ∨
    (field.isPositional = false ∧ isName field.name = true ∧
      (member = .named field.name ∨ member = .named ("r#" ++ field.name))) := by
  rw [memberOf] at named
  split at named
  next positional =>
    dsimp only at named
    split at named
    next small =>
      cases named
      exact .inl ⟨positional, _, UInt32.toNat_ofNat_of_lt' small, rfl⟩
    next => cases named
  next unnumbered =>
    rw [fieldIdentifier] at named
    have wide : isName field.name = true := by
      by_contra odd
      rw [if_pos (by simpa using odd)] at named
      cases named
    refine .inr ⟨by simpa using unnumbered, wide, ?_⟩
    split_ifs at named <;> cases named
    · exact .inl rfl
    · exact .inr rfl

/-- A digit is no letter, so that no name is made of digits. -/
theorem not_isAlphabetic_of_isDigit {c : Char} (digit : c.isDigit = true) :
    Text.isAlphabetic c = false := by
  have letterless : ∀ code ≤ 57, 48 ≤ code → Text.isAlphabetic (Char.ofNat code) = false := by
    decide
  have bounds := isDigit_iff.mp digit
  have known := letterless c.toNat bounds.2 bounds.1
  rwa [Char.ofNat_toNat] at known

theorem exists_of_isName {name : String} (wide : isName name = true) :
    ∃ c ∈ name.toList, c.isDigit = false := by
  rw [isName] at wide
  split at wide
  next => cases wide
  next first rest spelled =>
    refine ⟨first, by simp [spelled], ?_⟩
    by_contra digit
    have digit : first.isDigit = true := by simpa using digit
    have starts := (Bool.and_eq_true_iff.mp wide).1
    rw [not_isAlphabetic_of_isDigit digit, Bool.or_false, decide_eq_true_eq] at starts
    subst starts
    cases digit

/-- A mark for raw names is nothing that a name begins with. -/
theorem marked_ne_of_isName {name other : String} (wide : isName name = true) :
    "r#" ++ other ≠ name := by
  rintro rfl
  exact not_mem_of_isName (by decide) wide (c := '#') (by simp)

/-- Names have the same member, marked as raw or not, only if they are the same. -/
theorem eq_of_named {name name' : String} (wide : isName name = true) (wide' : isName name' = true)
    (route : member = .named name ∨ member = .named ("r#" ++ name))
    (route' : member = .named name' ∨ member = .named ("r#" ++ name')) : name = name' := by
  rcases route with rfl | rfl <;> rcases route' with same | same
  · exact Member.named.inj same
  · exact absurd (Member.named.inj same).symm (marked_ne_of_isName wide)
  · exact absurd (Member.named.inj same) (marked_ne_of_isName wide')
  · simpa using same

theorem bareName_of_positional (positional : field.isPositional = true) :
    field.bareName = String.ofList (field.name.toList.dropWhile (· == '0')) := if_pos positional

theorem bareName_of_not_positional (plain : field.isPositional = false) :
    field.bareName = field.name := by
  rw [Field.bareName, plain, if_neg Bool.false_ne_true]

/-- A position consists of digits, and other names do not. -/
theorem bareName_ne (positional : field.isPositional = true) (plain : other.isPositional = false)
    (wide : isName other.name = true) : field.bareName ≠ other.bareName := by
  intro same
  rw [bareName_of_positional positional, bareName_of_not_positional plain] at same
  obtain ⟨c, inside, odd⟩ := exists_of_isName wide
  rw [← same, String.toList_ofList] at inside
  have digit := digits_of_isPositional positional c ((List.dropWhile_sublist _).mem inside)
  rw [digit] at odd
  cases odd

/-- Fields have the same member exactly if their names differ in the leading zeros of a position
at most. -/
theorem memberOf_eq_iff (named : memberOf field = .ok member)
    (named' : memberOf other = .ok member') :
    member = member' ↔ field.bareName = other.bareName := by
  rcases memberOf_cases named with ⟨positional, index, number, rfl⟩ | ⟨plain, wide, route⟩ <;>
    rcases memberOf_cases named' with
      ⟨positional', index', number', rfl⟩ | ⟨plain', wide', route'⟩
  case inl.inl =>
    rw [bareName_of_positional positional, bareName_of_positional positional', String.ofList_inj,
      ← ofDigits_eq_iff (digits_of_isPositional positional) (digits_of_isPositional positional'),
      ← number, ← number', Member.position.injEq, UInt32.toNat_inj]
  case inl.inr =>
    have other := bareName_ne positional plain' wide'
    rcases route' with rfl | rfl <;> simp [other]
  case inr.inl =>
    have other := (bareName_ne positional' plain wide).symm
    rcases route with rfl | rfl <;> simp [other]
  case inr.inr =>
    rw [bareName_of_not_positional plain, bareName_of_not_positional plain']
    constructor
    · rintro rfl
      exact eq_of_named wide wide' route route'
    · intro same
      have alike : memberOf field = memberOf other := by
        simp only [memberOf, plain, plain', same]
      rw [named, named'] at alike
      exact Except.ok.inj alike

theorem ne_empty_of_memberOf (named : memberOf field = .ok member) : field.name ≠ "" := by
  intro empty
  rcases memberOf_cases named with ⟨positional, -⟩ | ⟨-, wide, -⟩
  · simp [Field.isPositional, empty] at positional
  · obtain ⟨c, inside, -⟩ := exists_of_isName wide
    simp [empty] at inside

/-- A trimmed name is left as it is, unless it is zero. -/
theorem bareName_of_trimmed (trimmed : field.Trimmed) :
    field.name = "0" ∧ field.bareName = "" ∨ field.bareName = field.name := by
  cases positional : field.isPositional with
  | false => exact .inr (bareName_of_not_positional positional)
  | true =>
      rw [bareName_of_positional positional]
      by_cases zero : field.name.toList.head? = some '0'
      · have single := trimmed positional zero
        exact .inl ⟨single, by rw [single]; rfl⟩
      · refine .inr ?_
        cases spelled : field.name.toList with
        | nil => rw [List.dropWhile_nil, ← spelled, String.ofList_toList]
        | cons digit digits =>
            rw [List.dropWhile_cons_of_neg (by simpa [spelled] using zero), ← spelled,
              String.ofList_toList]

/-- Trimmed names that make one member are the same. -/
theorem name_eq_of_bareName_eq (trimmed : field.Trimmed) (trimmed' : other.Trimmed)
    (named : memberOf field = .ok member) (named' : memberOf other = .ok member')
    (same : field.bareName = other.bareName) : field.name = other.name := by
  rcases bareName_of_trimmed trimmed with ⟨zero, empty⟩ | kept <;>
    rcases bareName_of_trimmed trimmed' with ⟨zero', empty'⟩ | kept'
  · rw [zero, zero']
  · exact absurd (kept' ▸ same ▸ empty) (ne_empty_of_memberOf named')
  · exact absurd (kept ▸ same ▸ empty') (ne_empty_of_memberOf named)
  · rw [← kept, same, kept']

theorem exists_member {fields : List Field} {parts : List Part}
    (stand : List.Forall₂ (fun field part => Part.StandsFor field part) fields parts)
    (listed : field ∈ fields) : ∃ member, memberOf field = .ok member := by
  induction stand with
  | nil => cases listed
  | cons first others ih =>
      rcases List.mem_cons.mp listed with rfl | later
      · exact ⟨_, first.member⟩
      · exact ih later

/-- The members of some fields are different exactly if the bare names are. -/
theorem nodup_members_iff {fields : List Field} {parts : List Part}
    (stand : List.Forall₂ (fun field part => Part.StandsFor field part) fields parts) :
    (parts.map (·.member)).Nodup ↔ (fields.map Field.bareName).Nodup := by
  induction stand with
  | nil => simp
  | @cons field part fields parts first others ih =>
      have fresh : part.member ∈ parts.map (·.member) ↔
          field.bareName ∈ fields.map Field.bareName := by
        clear ih
        induction others with
        | nil => simp
        | cons second others ih =>
            rw [List.map_cons, List.map_cons, List.mem_cons, List.mem_cons, ih,
              memberOf_eq_iff first.member second.member]
      rw [List.map_cons, List.map_cons, List.nodup_cons, List.nodup_cons, fresh, ih]

end Fields

/-! ## Tuples and records -/

/-- The elements of a tuple in order. -/
def tuplePlaces (count : Nat) : List Place :=
  (List.range count).map fun index => .member "tuple" (.position (UInt32.ofNat index))

theorem nodup_tuplePlaces {count : Nat} (small : count ≤ UInt32.size) :
    (tuplePlaces count).Nodup := by
  apply List.Nodup.map_on _ List.nodup_range
  intro first listed second listed' same
  have inside := Nat.lt_of_lt_of_le (List.mem_range.mp listed) small
  have inside' := Nat.lt_of_lt_of_le (List.mem_range.mp listed') small
  have index := Member.position.inj (Place.member.inj same).2
  rw [← UInt32.toNat_ofNat_of_lt' inside, index, UInt32.toNat_ofNat_of_lt' inside']

/-- How an implementation turns records into tuples and back: the elements are the members of
the record in order, and each member is given the element at its place.  The result is a record
exactly if no member is given twice. -/
structure Exchanges (implementation : Implementation) (members : List Member) : Prop where
  elements : implementation.result? "into_tuple" =
    some (.tuple (members.map (Place.member "self")))
  fields : implementation.result? "from_tuple" =
    some (.record (members.zip (tuplePlaces members.length)))
  places : (tuplePlaces members.length).Nodup
  possible : ∀ {V : Type} (semantics : FieldSemantics V) (elements : List V),
    elements.length = members.length →
    ((implementation.call semantics "from_tuple" [.tuple elements] :
        Option (Meaning members V)).isSome ↔ members.Nodup)

theorem product_exchanges {subject : Subject} (small : subject.parts.length ≤ UInt32.size) :
    Exchanges (Derive.product subject) subject.members := by
  have count : subject.members.length = subject.parts.length := List.length_map _
  refine ⟨?elements, ?fields, ?places, ?possible⟩
  case elements =>
    rw [Subject.members, List.map_map]
    rfl
  case fields =>
    have fields : subject.parts.zipIdx.map (fun entry =>
        (entry.1.member, Place.member "tuple" (.position (UInt32.ofNat entry.2)))) =
        subject.members.zip (tuplePlaces subject.members.length) := by
      rw [List.zipIdx_eq_zip_range', ← List.range_eq_range', count, Subject.members, tuplePlaces,
        List.zip_map]
      rfl
    rw [← fields]
    simp [Derive.product, Derive.fromTupleBody, Implementation.result?]
  case places => exact nodup_tuplePlaces (count ▸ small)
  case possible =>
    intro V semantics elements same
    let scope : Scope subject.members V := [("tuple", .tuple elements)]
    have given : scope.lookup "tuple" = some (.tuple elements) := rfl
    have reading : (Derive.product subject).call semantics "from_tuple" [.tuple elements] =
        (Record.collect subject.members (subject.members.zip elements)).map
          fun record => (.record record, []) :=
      fromTupleBody_collect semantics given (same.trans count) small
    rw [reading, Option.isSome_map]
    constructor
    · intro collected
      have names := Record.nodup_of_collect collected
      rwa [List.map_fst_zip (Nat.le_of_eq same.symm)] at names
    · intro distinct
      obtain ⟨record, collected, -⟩ := Record.collect_zip distinct same
      rw [collected]
      rfl

/-! ## Files -/

variable {H : Type} {declaration : Declaration H} {config : Config} {file : Artifact}

/-- Fields that are rendered have different members exactly if their names are different without
leading zeros, as different names that have none are.  The tuple has the members in order, and
the record made of it has each member once if they are different, and does not exist if they are
not. -/
theorem render_members (rendered : render declaration config = .ok file) :
    ∃ subject, Emits declaration config subject file ∧
      (subject.members.Nodup ↔ (declaration.fields.map Field.bareName).Nodup) ∧
      ((declaration.fields.map (·.name)).Nodup →
        (∀ field ∈ declaration.fields, field.Trimmed) → subject.members.Nodup) ∧
      (.product ∈ config.selected → Exchanges (Derive.product subject) subject.members) := by
  obtain ⟨subject, emits, early⟩ := exists_emits rendered
  have told := nodup_members_iff emits.parts
  refine ⟨subject, emits, told, ?trimmed, ?exchanges⟩
  case trimmed =>
    intro distinct trimmed
    rw [Subject.members, told]
    apply List.Nodup.map_on _ distinct.of_map
    intro field listed other listed' same
    obtain ⟨member, named⟩ := exists_member emits.parts listed
    obtain ⟨member', named'⟩ := exists_member emits.parts listed'
    exact List.inj_on_of_nodup_map distinct listed listed'
      (name_eq_of_bareName_eq (trimmed _ listed) (trimmed _ listed') named named' same)
  case exchanges =>
    intro selected
    exact product_exchanges (length_le_of_early early selected)

/-- A point with a field of each kind, among them two positions. -/
theorem render_members_point :
    let declaration : Declaration Nat :=
      ⟨0, "geo", "Point", [⟨"x", "i32"⟩, ⟨"type", "Vec<f64>"⟩, ⟨"0", "bool"⟩, ⟨"10", "bool"⟩]⟩
    ∃ file subject, render declaration {} = .ok file ∧ Emits declaration {} subject file ∧
      subject.members = [.named "x", .named "r#type", .position 0, .position 10] ∧
      subject.members.Nodup ∧ Exchanges (Derive.product subject) subject.members := by
  intro declaration
  have succeeds : (render declaration {}).toOption.map (fun _ => ()) = some () := by
    decide +kernel
  have named : (subjectOf declaration {}).toOption.map (·.members) =
      some [.named "x", .named "r#type", .position 0, .position 10] := by decide +kernel
  obtain ⟨file, rendered, -⟩ := toOption_map_eq_some succeeds
  obtain ⟨subject, emits, -, distinct, exchanges⟩ := render_members rendered
  rw [emits.read] at named
  have members : subject.members = [.named "x", .named "r#type", .position 0, .position 10] :=
    Option.some.inj named
  exact ⟨file, subject, rendered, emits, members, distinct (by decide) (by decide),
    exchanges (by decide)⟩

/-- Two names of the first position are different, and give one member. -/
theorem render_mistakes_zeros :
    let declaration : Declaration Nat := ⟨0, "", "Pair", [⟨"0", "u8"⟩, ⟨"00", "u8"⟩]⟩
    (declaration.fields.map (·.name)).Nodup ∧
      (render declaration {}).toOption.isSome = true ∧
      (declaration.fields.mapM memberOf).toOption = some [.position 0, .position 0] := by
  decide +kernel

end Code

end RecordDerive
