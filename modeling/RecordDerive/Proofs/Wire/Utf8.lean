import RecordDerive.Wire.Utf8

/-!
# Texts are read back from their bytes

Every character is written in a well-formed sequence: over-long forms and
surrogates, which reading refuses, belong to no character.  So reading gives the
characters of a text back, and it reads them from no other bytes.
-/

namespace RecordDerive.Wire.Utf8

theorem within_iff {low high byte : UInt8} :
    within low high byte = true ↔ low.toNat ≤ byte.toNat ∧ byte.toNat ≤ high.toNat := by
  simp only [within, Bool.and_eq_true, decide_eq_true_eq, UInt8.le_iff_toNat_le]

/-- A byte above some bounds is not between them. -/
theorem not_within {low high byte : UInt8} (above : high.toNat < byte.toNat) :
    ¬within low high byte = true :=
  fun inside => Nat.not_le.mpr above (within_iff.mp inside).2

theorem toNat_ofNat_of_lt (number : Nat) (small : number < 256) :
    (UInt8.ofNat number).toNat = number := by
  rw [UInt8.toNat_ofNat']
  exact Nat.mod_eq_of_lt small

/-! ## Sequences -/

/-- A well-formed sequence, by its length, and the character it stands for. -/
inductive Sequence : List UInt8 → Char → Prop
  | one {first : UInt8} {character : Char} (lead : first.toNat < 0x80)
      (bits : Char.ofNat first.toNat = character) : Sequence [first] character
  | two {first second : UInt8} {character : Char} (lead : within 0xC2 0xDF first = true)
      (next : continues second = true)
      (bits : assemble (first.toNat % 32) [second] = character) :
      Sequence [first, second] character
  | three {first second third : UInt8} {character : Char}
      (lead : within 0xE0 0xEF first = true) (next : secondOfThree first second = true)
      (last : continues third = true)
      (bits : assemble (first.toNat % 16) [second, third] = character) :
      Sequence [first, second, third] character
  | four {first second third fourth : UInt8} {character : Char}
      (lead : within 0xF0 0xF4 first = true) (next : secondOfFour first second = true)
      (inner : continues third = true) (last : continues fourth = true)
      (bits : assemble (first.toNat % 8) [second, third, fourth] = character) :
      Sequence [first, second, third, fourth] character

theorem not_ascii {first : UInt8} (large : 0x80 ≤ first.toNat) : ¬first < 0x80 :=
  fun below => Nat.not_lt.mpr large (UInt8.lt_iff_toNat_lt.mp below)

/-- A sequence is read, whatever stands after it. -/
theorem decodeFrom_sequence {used : List UInt8} {character : Char}
    (formed : Sequence used character) (offset : Nat) (rest : List UInt8) :
    decodeFrom offset (used ++ rest) =
      (decodeFrom (offset + used.length) rest).map (character :: ·) := by
  rw [decodeFrom.eq_def]
  cases formed with
  | one lead bits =>
      subst bits
      exact if_pos (UInt8.lt_iff_toNat_lt.mpr lead)
  | @two first _ _ lead next bits =>
      have least : 0xC2 ≤ first.toNat := (within_iff.mp lead).1
      have ascii : ¬first < 0x80 := not_ascii (Nat.le_trans (by decide) least)
      simp only [List.cons_append, List.nil_append, if_neg ascii, if_pos lead, if_pos next, bits]
      rfl
  | @three first _ _ _ lead next last bits =>
      have least : 0xE0 ≤ first.toNat := (within_iff.mp lead).1
      have ascii : ¬first < 0x80 := not_ascii (Nat.le_trans (by decide) least)
      have two : ¬within 0xC2 0xDF first = true := not_within least
      simp only [List.cons_append, List.nil_append, if_neg ascii, if_neg two, if_pos lead,
        if_pos next, if_pos last, bits]
      rfl
  | @four first _ _ _ _ lead next inner last bits =>
      have least : 0xF0 ≤ first.toNat := (within_iff.mp lead).1
      have ascii : ¬first < 0x80 := not_ascii (Nat.le_trans (by decide) least)
      have two : ¬within 0xC2 0xDF first = true := not_within (Nat.le_trans (by decide) least)
      have three : ¬within 0xE0 0xEF first = true := not_within least
      simp only [List.cons_append, List.nil_append, if_neg ascii, if_neg two, if_neg three,
        if_pos lead, if_pos next, if_pos inner, if_pos last, bits]
      rfl

/-! ## Characters -/

/-- A byte made of six bits continues a character. -/
theorem continues_ofNat (number : Nat) :
    continues (UInt8.ofNat (number % 64 + 128)) = true := by
  rw [continues, within_iff, toNat_ofNat_of_lt _ (by omega)]
  constructor
  · exact Nat.le_add_left 128 _
  · change number % 64 + 128 ≤ 191
    omega

/-- No character has an over-long form of three bytes or is a surrogate. -/
theorem secondOfThree_ofNat {code : Nat} (long : 0x800 ≤ code) (short : code < 0x10000)
    (scalar : code < 0xD800 ∨ 0xDFFF < code) :
    secondOfThree (UInt8.ofNat (code / 4096 % 16 + 224)) (UInt8.ofNat (code / 64 % 64 + 128)) =
      true := by
  have first := toNat_ofNat_of_lt (code / 4096 % 16 + 224) (by omega)
  have second := toNat_ofNat_of_lt (code / 64 % 64 + 128) (by omega)
  unfold secondOfThree
  split
  next least =>
    rw [beq_iff_eq, ← UInt8.toNat_inj, first] at least
    change code / 4096 % 16 + 224 = 224 at least
    rw [within_iff, second]
    change 160 ≤ code / 64 % 64 + 128 ∧ code / 64 % 64 + 128 ≤ 191
    omega
  split
  next surrogates =>
    rw [beq_iff_eq, ← UInt8.toNat_inj, first] at surrogates
    change code / 4096 % 16 + 224 = 237 at surrogates
    rw [within_iff, second]
    change 128 ≤ code / 64 % 64 + 128 ∧ code / 64 % 64 + 128 ≤ 159
    omega
  next => exact continues_ofNat (code / 64)

/-- No character has an over-long form of four bytes or lies above the last code
point. -/
theorem secondOfFour_ofNat {code : Nat} (long : 0x10000 ≤ code) (scalar : code < 0x110000) :
    secondOfFour (UInt8.ofNat (code / 262144 % 8 + 240)) (UInt8.ofNat (code / 4096 % 64 + 128)) =
      true := by
  have first := toNat_ofNat_of_lt (code / 262144 % 8 + 240) (by omega)
  have second := toNat_ofNat_of_lt (code / 4096 % 64 + 128) (by omega)
  unfold secondOfFour
  split
  next least =>
    rw [beq_iff_eq, ← UInt8.toNat_inj, first] at least
    change code / 262144 % 8 + 240 = 240 at least
    rw [within_iff, second]
    change 144 ≤ code / 4096 % 64 + 128 ∧ code / 4096 % 64 + 128 ≤ 191
    omega
  split
  next greatest =>
    rw [beq_iff_eq, ← UInt8.toNat_inj, first] at greatest
    change code / 262144 % 8 + 240 = 244 at greatest
    rw [within_iff, second]
    change 128 ≤ code / 4096 % 64 + 128 ∧ code / 4096 % 64 + 128 ≤ 143
    omega
  next => exact continues_ofNat (code / 4096)

/-- Bytes that hold the bits of a character give the character back. -/
theorem assemble_eq {character : Char} {lead : Nat} {following : List UInt8}
    (bits : following.foldl (fun code byte => code * 64 + byte.toNat % 64) lead =
      character.toNat) : assemble lead following = character := by
  rw [assemble, bits, Char.ofNat_toNat]

/-- The bytes of a character, by the range of its code point. -/
theorem utf8EncodeChar_eq (character : Char) :
    String.utf8EncodeChar character =
      let code := character.toNat
      if code ≤ 127 then [UInt8.ofNat code]
      else if code ≤ 2047 then
        [UInt8.ofNat (code / 64 % 32 + 192), UInt8.ofNat (code % 64 + 128)]
      else if code ≤ 65535 then
        [UInt8.ofNat (code / 4096 % 16 + 224), UInt8.ofNat (code / 64 % 64 + 128),
          UInt8.ofNat (code % 64 + 128)]
      else
        [UInt8.ofNat (code / 262144 % 8 + 240), UInt8.ofNat (code / 4096 % 64 + 128),
          UInt8.ofNat (code / 64 % 64 + 128), UInt8.ofNat (code % 64 + 128)] := rfl

/-- The bytes of a character are a sequence for it. -/
theorem sequence_utf8EncodeChar (character : Char) :
    Sequence (String.utf8EncodeChar character) character := by
  have scalar : character.toNat < 0xD800 ∨
      0xDFFF < character.toNat ∧ character.toNat < 0x110000 := character.valid
  have tail (number : Nat) : (UInt8.ofNat (number % 64 + 128)).toNat % 64 = number % 64 := by
    rw [toNat_ofNat_of_lt _ (by omega)]
    omega
  rw [utf8EncodeChar_eq]
  dsimp only
  split
  next one =>
    have lead := toNat_ofNat_of_lt character.toNat (by omega)
    refine .one ?_ ?_
    · omega
    · rw [lead, Char.ofNat_toNat]
  split
  next one two =>
    have lead := toNat_ofNat_of_lt (character.toNat / 64 % 32 + 192) (by omega)
    refine .two ?_ (continues_ofNat character.toNat) (assemble_eq ?_)
    · rw [within_iff, lead]
      change 194 ≤ _ ∧ _ ≤ 223
      omega
    · simp only [List.foldl_cons, List.foldl_nil, lead, tail]
      omega
  split
  next one two three =>
    have lead := toNat_ofNat_of_lt (character.toNat / 4096 % 16 + 224) (by omega)
    refine .three ?_ (secondOfThree_ofNat (by omega) (by omega) (by omega))
      (continues_ofNat character.toNat) (assemble_eq ?_)
    · rw [within_iff, lead]
      change 224 ≤ _ ∧ _ ≤ 239
      omega
    · simp only [List.foldl_cons, List.foldl_nil, lead, tail]
      omega
  next one two three =>
    have lead := toNat_ofNat_of_lt (character.toNat / 262144 % 8 + 240) (by omega)
    refine .four ?_ (secondOfFour_ofNat (by omega) (by omega))
      (continues_ofNat (character.toNat / 64)) (continues_ofNat character.toNat) (assemble_eq ?_)
    · rw [within_iff, lead]
      change 240 ≤ _ ∧ _ ≤ 244
      omega
    · simp only [List.foldl_cons, List.foldl_nil, lead, tail]
      omega

/-- A text is read back. -/
theorem decode_encode (characters : List Char) : decode (encode characters) = .ok characters := by
  suffices every : ∀ offset, decodeFrom offset (encode characters) = .ok characters from every 0
  induction characters with
  | nil => exact fun _ => rfl
  | cons first rest ih =>
      intro offset
      change decodeFrom offset (String.utf8EncodeChar first ++ encode rest) = _
      rw [decodeFrom_sequence (sequence_utf8EncodeChar first), ih]
      rfl

/-! ## Bytes of a text -/

theorem toNat_ofNat_of_scalar {code : Nat}
    (scalar : code < 0xD800 ∨ 0xDFFF < code ∧ code < 0x110000) :
    (Char.ofNat code).toNat = code := by
  have valid : code.isValidChar := scalar
  rw [Char.ofNat, dif_pos valid]
  rfl

/-- The code point of an assembled character, where there is such a character. -/
theorem toNat_assemble {lead code : Nat} {following : List UInt8}
    (bits : following.foldl (fun code byte => code * 64 + byte.toNat % 64) lead = code)
    (scalar : code < 0xD800 ∨ 0xDFFF < code ∧ code < 0x110000) :
    (assemble lead following).toNat = code := by
  rw [assemble, bits, toNat_ofNat_of_scalar scalar]

theorem continues_iff {byte : UInt8} :
    continues byte = true ↔ 0x80 ≤ byte.toNat ∧ byte.toNat ≤ 0xBF := by
  rw [continues, within_iff]
  rfl

theorem secondOfThree_bounds {first second : UInt8} (next : secondOfThree first second = true) :
    (0x80 ≤ second.toNat ∧ second.toNat ≤ 0xBF) ∧
      (first.toNat = 0xE0 → 0xA0 ≤ second.toNat) ∧
      (first.toNat = 0xED → second.toNat ≤ 0x9F) := by
  unfold secondOfThree at next
  split at next
  next least =>
    have lead : first.toNat = 0xE0 := congrArg UInt8.toNat (beq_iff_eq.mp least)
    have range : 0xA0 ≤ second.toNat ∧ second.toNat ≤ 0xBF := within_iff.mp next
    omega
  next other =>
    have lead : first.toNat ≠ 0xE0 := fun same => other (beq_iff_eq.mpr (UInt8.toNat_inj.mp same))
    split at next
    next surrogates =>
      have range : 0x80 ≤ second.toNat ∧ second.toNat ≤ 0x9F := within_iff.mp next
      omega
    next further =>
      have lead' : first.toNat ≠ 0xED := fun same =>
        further (beq_iff_eq.mpr (UInt8.toNat_inj.mp same))
      have range := continues_iff.mp next
      omega

theorem secondOfFour_bounds {first second : UInt8} (next : secondOfFour first second = true) :
    (0x80 ≤ second.toNat ∧ second.toNat ≤ 0xBF) ∧
      (first.toNat = 0xF0 → 0x90 ≤ second.toNat) ∧
      (first.toNat = 0xF4 → second.toNat ≤ 0x8F) := by
  unfold secondOfFour at next
  split at next
  next least =>
    have lead : first.toNat = 0xF0 := congrArg UInt8.toNat (beq_iff_eq.mp least)
    have range : 0x90 ≤ second.toNat ∧ second.toNat ≤ 0xBF := within_iff.mp next
    omega
  next other =>
    have lead : first.toNat ≠ 0xF0 := fun same => other (beq_iff_eq.mpr (UInt8.toNat_inj.mp same))
    split at next
    next greatest =>
      have range : 0x80 ≤ second.toNat ∧ second.toNat ≤ 0x8F := within_iff.mp next
      omega
    next further =>
      have lead' : first.toNat ≠ 0xF4 := fun same =>
        further (beq_iff_eq.mpr (UInt8.toNat_inj.mp same))
      have range := continues_iff.mp next
      omega

theorem ofNat_eq_of_toNat {byte : UInt8} {number : Nat} (same : number = byte.toNat) :
    UInt8.ofNat number = byte := by
  rw [same, UInt8.ofNat_toNat]

/-- A character has no other sequence than its bytes. -/
theorem utf8EncodeChar_of_sequence {used : List UInt8} {character : Char}
    (formed : Sequence used character) : String.utf8EncodeChar character = used := by
  rw [utf8EncodeChar_eq]
  cases formed with
  | @one first _ lead bits =>
      have code := @toNat_ofNat_of_scalar first.toNat (.inl (by omega))
      rw [bits] at code
      dsimp only
      rw [code, if_pos (by omega), UInt8.ofNat_toNat]
  | @two first second _ lead next bits =>
      have range : 0xC2 ≤ first.toNat ∧ first.toNat ≤ 0xDF := within_iff.mp lead
      have tail := continues_iff.mp next
      have code : character.toNat = first.toNat % 32 * 64 + second.toNat % 64 :=
        bits ▸ toNat_assemble rfl (by omega)
      dsimp only
      rw [code, if_neg (by omega), if_pos (by omega), @ofNat_eq_of_toNat first _ (by omega),
        @ofNat_eq_of_toNat second _ (by omega)]
  | @three first second third _ lead next last bits =>
      have range : 0xE0 ≤ first.toNat ∧ first.toNat ≤ 0xEF := within_iff.mp lead
      have inner := secondOfThree_bounds next
      have tail := continues_iff.mp last
      have code : character.toNat =
          (first.toNat % 16 * 64 + second.toNat % 64) * 64 + third.toNat % 64 :=
        bits ▸ toNat_assemble rfl (by omega)
      dsimp only
      rw [code, if_neg (by omega), if_neg (by omega), if_pos (by omega),
        @ofNat_eq_of_toNat first _ (by omega), @ofNat_eq_of_toNat second _ (by omega),
        @ofNat_eq_of_toNat third _ (by omega)]
  | @four first second third fourth _ lead next inner last bits =>
      have range : 0xF0 ≤ first.toNat ∧ first.toNat ≤ 0xF4 := within_iff.mp lead
      have bounds := secondOfFour_bounds next
      have third' := continues_iff.mp inner
      have fourth' := continues_iff.mp last
      have code : character.toNat =
          ((first.toNat % 8 * 64 + second.toNat % 64) * 64 + third.toNat % 64) * 64 +
            fourth.toNat % 64 :=
        bits ▸ toNat_assemble rfl (by omega)
      dsimp only
      rw [code, if_neg (by omega), if_neg (by omega), if_neg (by omega),
        @ofNat_eq_of_toNat first _ (by omega), @ofNat_eq_of_toNat second _ (by omega),
        @ofNat_eq_of_toNat third _ (by omega), @ofNat_eq_of_toNat fourth _ (by omega)]

theorem encode_of_map {character : Char} {characters : List Char} {used rest : List UInt8}
    {offset : Nat}
    (later : ∀ characters, decodeFrom offset rest = .ok characters → encode characters = rest)
    (formed : Sequence used character)
    (read : (decodeFrom offset rest).map (character :: ·) = .ok characters) :
    encode characters = used ++ rest := by
  cases tail : decodeFrom offset rest with
  | error fault =>
      rw [tail] at read
      cases read
  | ok others =>
      rw [tail] at read
      cases read
      rw [encode, List.flatMap_cons, utf8EncodeChar_of_sequence formed]
      exact congrArg (used ++ ·) (later others tail)

/-- A text has no other bytes than its own. -/
theorem encode_of_decodeFrom (offset : Nat) (bytes : List UInt8) (characters : List Char)
    (read : decodeFrom offset bytes = .ok characters) : encode characters = bytes := by
  fun_induction decodeFrom offset bytes generalizing characters with
  | case1 offset =>
      cases read
      rfl
  | case2 offset first rest ascii ih =>
      exact encode_of_map ih (.one (UInt8.lt_iff_toNat_lt.mp ascii) rfl) read
  | case4 offset first _ lead second rest next ih =>
      exact encode_of_map ih (.two lead next rfl) read
  | case8 offset first _ _ lead second next third rest last ih =>
      exact encode_of_map ih (.three lead next last rfl) read
  | case14 offset first _ _ _ lead second next third inner fourth rest last ih =>
      exact encode_of_map ih (.four lead next inner last rfl) read
  | _ => cases read

theorem encode_of_decode {bytes : List UInt8} {characters : List Char}
    (read : decode bytes = .ok characters) : encode characters = bytes :=
  encode_of_decodeFrom 0 bytes characters read

end RecordDerive.Wire.Utf8
