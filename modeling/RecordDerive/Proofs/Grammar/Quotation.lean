import Mathlib.Tactic.SplitIfs
import RecordDerive.Grammar.Literal
import RecordDerive.Text.Escape

/-!
# Quoted text is read back

A text in double quotes is a string literal with this text for its content, whatever characters
it has: each character is told by what stands for it between the quotes, and no quote among them
ends the literal.
-/

namespace RecordDerive.Grammar.Literal

open Lexer (hexValue)
open Text (escape escapeChar numberEscape quote isOctal)

/-! ## Characters given by number -/

theorem numbered_digitChar (value : Nat) {digit : Nat} (small : digit < 16) (rest : List Char) :
    numbered value (digit.digitChar :: rest) = numbered (value * 16 + digit) rest := by
  have digits : ∀ digit : Fin 16, hexValue digit.val.digitChar = digit ∧
      digit.val.digitChar ≠ '\x7d' ∧ digit.val.digitChar ≠ '_' := by decide
  obtain ⟨same, inside, plain⟩ := digits ⟨digit, small⟩
  rw [numbered.eq_4 _ _ _ inside plain, same]

/-- The digits of a number in front of others are read as that number. -/
theorem numbered_toDigits (number : Nat) (rest : List Char) :
    numbered 0 (Nat.toDigits 16 number ++ rest) = numbered number rest := by
  induction number using Nat.strongRecOn generalizing rest with
  | ind number ih =>
      rw [Nat.toDigits_eq_if (by decide)]
      split
      next small =>
          rw [List.singleton_append, numbered_digitChar 0 small, Nat.zero_mul, Nat.zero_add]
      next large =>
          have last : number % 16 < 16 := Nat.mod_lt number (by decide)
          have whole : number / 16 * 16 + number % 16 = number := Nat.div_add_mod' number 16
          rw [List.append_assoc, ih (number / 16) (by omega), List.singleton_append,
            numbered_digitChar _ last, whole]

/-! ## Characters between quotes -/

/-- A piece of a literal stands for a character, whatever follows it. -/
def Spells (piece : List Char) (c : Char) : Prop :=
  ∀ steps tail, cookedContent (steps + 1) (piece ++ tail) = c :: cookedContent steps tail

theorem Spells.ne_nil {piece : List Char} {c : Char} (spells : Spells piece c) : piece ≠ [] := by
  rintro rfl
  have nothing : [] = c :: cookedContent 0 [] := spells 0 []
  cases nothing

theorem spells_self {c : Char} (unquoted : c ≠ '"') (unescaped : c ≠ '\\') (unreturned : c ≠ '\r') :
    Spells [c] c := by
  intro steps tail
  rw [List.singleton_append, cookedContent.eq_8]
  all_goals simp_all

theorem spells_numberEscape (c : Char) : Spells (numberEscape c).toList c := by
  intro steps tail
  have digits : (numberEscape c).toList ++ tail =
      '\\' :: 'u' :: '\x7b' :: (Nat.toDigits 16 c.toNat ++ '\x7d' :: tail) := by
    simp [numberEscape]
  have number : escaped ('u' :: '\x7b' :: (Nat.toDigits 16 c.toNat ++ '\x7d' :: tail)) =
      (c, tail) := by
    rw [escaped, numbered_toDigits, numbered, Char.ofNat_toNat]
  have step (more : List Char) : cookedContent (steps + 1) ('\\' :: 'u' :: more) =
      (escaped ('u' :: more)).1 :: cookedContent steps (escaped ('u' :: more)).2 := rfl
  rw [digits, step, number]

theorem spells_escapeChar (c : Char) : Spells (escapeChar c).toList c := by
  rw [escapeChar]
  split_ifs with tab feed carriage quotation backslash hidden
  · subst tab
    exact fun _ _ => rfl
  · subst feed
    exact fun _ _ => rfl
  · subst carriage
    exact fun _ _ => rfl
  · subst quotation
    exact fun _ _ => rfl
  · subst backslash
    exact fun _ _ => rfl
  · exact spells_numberEscape c
  · rw [String.toList_singleton]
    exact spells_self quotation backslash carriage

/-- Text between quotes is made up of what stands for its characters. -/
theorem escape_cons (first : Char) (rest : List Char) :
    ∃ piece, (escape (first :: rest)).toList = piece ++ (escape rest).toList ∧
      Spells piece first := by
  by_cases null : first = '\x00'
  · subst null
    cases rest with
    | nil => exact ⟨"\\0".toList, by simp [escape], fun _ _ => rfl⟩
    | cons next rest =>
        rw [escape, String.toList_append]
        split
        next => exact ⟨_, rfl, fun _ _ => rfl⟩
        next => exact ⟨_, rfl, fun _ _ => rfl⟩
  · refine ⟨_, ?_, spells_escapeChar first⟩
    rw [escape, String.toList_append]
    all_goals simp [null]

theorem cookedContent_escape (text rest : List Char) {steps : Nat} (enough : text.length ≤ steps) :
    cookedContent steps ((escape text).toList ++ '"' :: rest) = text := by
  induction text generalizing steps with
  | nil =>
      cases steps with
      | zero => rfl
      | succ steps => rfl
  | cons first text ih =>
      obtain ⟨steps, rfl⟩ := Nat.exists_eq_add_of_le' enough
      obtain ⟨piece, split, spells⟩ := escape_cons first text
      rw [split, List.append_assoc, List.length_cons, ← Nat.add_assoc, spells, ih (by omega)]

theorem length_le_escape (text : List Char) : text.length ≤ (escape text).toList.length := by
  induction text with
  | nil => exact Nat.zero_le _
  | cons first text ih =>
      obtain ⟨piece, split, spells⟩ := escape_cons first text
      have longer := List.length_pos_iff.mpr spells.ne_nil
      rw [split, List.length_append, List.length_cons]
      omega

/-- The content of a quoted text is the text. -/
theorem stringContent_quote (text : String) : stringContent? (quote text) = some text := by
  have spelled : (quote text).toList = '"' :: ((escape text.toList).toList ++ ['"']) := by
    simp [quote]
  have long : text.toList.length ≤ ((escape text.toList).toList ++ ['"']).length := by
    have escaped := length_le_escape text.toList
    rw [List.length_append]
    omega
  simp only [stringContent?, spelled]
  rw [cookedContent_escape text.toList [] long, String.ofList_toList]

end RecordDerive.Grammar.Literal
