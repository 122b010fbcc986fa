import RecordDerive.Grammar.Lexer

/-!
# Reading tokens makes progress

A scanner returns an end of its input, and whatever is recognised as a lexeme takes at least
one character.  So a text is divided in at most as many steps as it has characters, and more
steps than that change nothing.
-/

namespace RecordDerive.Grammar.Lexer

open RecordDerive.Text

/-- A scanner that takes some characters of what it recognises anything in. -/
def Takes (scanner : Scanner) : Prop :=
  ∀ input rest, scanner input = some rest → rest.length < input.length

/-- A scanner that may also recognise something without taking it. -/
def Keeps (scanner : Scanner) : Prop :=
  ∀ input rest, scanner input = some rest → rest.length ≤ input.length

variable {first second : Scanner}

theorem Takes.keeps (takes : Takes first) : Keeps first :=
  fun input rest found => Nat.le_of_lt (takes input rest found)

theorem Takes.bind (takes : Takes first) (keeps : Keeps second) :
    Takes fun input => (first input).bind second := by
  intro input rest found
  obtain ⟨between, before, after⟩ := Option.bind_eq_some_iff.mp found
  exact Nat.lt_of_le_of_lt (keeps between rest after) (takes input between before)

/-- What one scanner does not recognise may be left to another. -/
theorem Takes.orElse (takes : Takes first) (takes' : Takes second) :
    Takes fun input => first input <|> second input := by
  intro input rest found
  dsimp only at found
  cases before : first input with
  | none =>
      rw [before] at found
      exact takes' input rest found
  | some between =>
      rw [before] at found
      cases found
      exact takes input rest before

theorem length_dropWhile_le (property : Char → Bool) (input : List Char) :
    (input.dropWhile property).length ≤ input.length :=
  (List.dropWhile_suffix property).length_le

theorem starts_iff {word : String} {input : List Char} :
    starts word input = true ↔ ∃ rest, word.toList ++ rest = input :=
  List.isPrefixOf_iff_prefix

/-! ## Blanks and comments -/

theorem length_lineEnd_le (input : List Char) : (lineEnd input).length ≤ input.length := by
  fun_induction lineEnd input with
  | case1 => exact Nat.le_refl _
  | case2 rest => exact Nat.le_refl _
  | case3 rest => exact Nat.le_refl _
  | case4 first rest _ _ ih => exact Nat.le_succ_of_le ih

theorem takes_blockComment (depth : Nat) : Takes (blockComment depth) := by
  intro input rest found
  fun_induction blockComment depth input <;> grind

theorem starts_eq_false (word : String) {first c : Char} {more : List Char}
    (spelled : word.toList = c :: more) (differs : c ≠ first) (rest : List Char) :
    starts word (first :: rest) = false := by
  rw [starts, spelled, List.isPrefixOf_cons_cons, beq_eq_false_iff_ne.mpr differs, Bool.false_and]

theorem plainComment_eq_none {first : Char} (uncommented : first ≠ '/') (rest : List Char) :
    plainComment (first :: rest) = none := by
  simp [plainComment, starts_eq_false "//" rfl uncommented.symm,
    starts_eq_false "/**/" rfl uncommented.symm, starts_eq_false "/*" rfl uncommented.symm]

theorem lineEnd_comment (rest : List Char) : lineEnd ("//".toList ++ rest) = lineEnd rest := rfl

/-- A line goes on behind a character that neither ends it nor begins its end. -/
theorem lineEnd_cons {first : Char} {rest : List Char} (same : first ≠ '\n')
    (unpaired : ∀ others, first = '\r' → rest ≠ '\n' :: others) :
    lineEnd (first :: rest) = lineEnd rest := by
  rw [lineEnd]
  · exact same
  · exact unpaired

theorem takes_plainComment : Takes plainComment := by
  intro input rest found
  unfold plainComment at found
  split at found
  next line =>
    obtain ⟨behind, rfl⟩ := starts_iff.mp line
    split at found
    next => cases found
    next =>
      cases found
      rw [lineEnd_comment]
      exact Nat.lt_succ_of_le (Nat.le_succ_of_le (length_lineEnd_le behind))
  next =>
    split at found
    next block =>
      obtain ⟨behind, rfl⟩ := starts_iff.mp block
      cases found
      show behind.length < behind.length + 4
      exact Nat.lt_add_of_pos_right (by decide)
    next =>
      split at found
      next =>
        split at found
        next => cases found
        next => exact takes_blockComment 0 input rest found
      next => cases found

/-! ## Words and literals -/

theorem takes_plainIdentifier : Takes plainIdentifier := by
  intro input rest
  fun_cases plainIdentifier input <;> grind [length_dropWhile_le]

theorem takes_identifier : Takes identifier := by
  intro input rest found
  have := takes_plainIdentifier
  grind [identifier, Takes]

theorem takes_word : Takes word := by
  intro input rest found
  have := takes_identifier
  grind [word, Takes]

theorem length_afterSuffix_le (input : List Char) :
    (afterSuffix input).length ≤ input.length := by
  rw [afterSuffix]
  cases found : plainIdentifier input with
  | none => exact Nat.le_refl _
  | some rest => exact takes_plainIdentifier.keeps input rest found

theorem keeps_wordBreak : Keeps wordBreak := by
  intro input rest
  fun_cases wordBreak input <;> grind

theorem takes_numberedChar (content : Content) (value digits : Nat) :
    Takes (numberedChar content value digits) := by
  intro input rest found
  fun_induction numberedChar content value digits input <;> grind

theorem takes_escapeTail (content : Content) : Takes (escapeTail content) := by
  intro input rest
  have := takes_numberedChar content 0 0
  fun_cases escapeTail content input <;> grind [Takes]

theorem keeps_continuation : Keeps continuation := by
  intro input rest found
  fun_induction continuation input <;> grind

theorem takes_cookedString (content : Content) (steps : Nat) :
    Takes (cookedString content steps) := by
  induction steps with
  | zero => exact nofun
  | succ steps ih =>
      intro input rest found
      unfold cookedString at found
      split at found <;>
        grind [length_afterSuffix_le, Takes, Keeps, takes_escapeTail, keeps_continuation,
          Option.bind_eq_some_iff]

theorem takes_rawEnd (content : Content) (marks : List Char) : Takes (rawEnd content marks) := by
  intro input rest found
  fun_induction rawEnd content marks input <;> grind

theorem takes_rawString (content : Content) : Takes (rawString content) := by
  intro input rest found
  unfold rawString at found
  dsimp only at found
  split at found
  next inside opened =>
    rw [Option.ite_none_right_eq_some, Option.map_eq_some_iff] at found
    obtain ⟨-, between, closed, rfl⟩ := found
    have marks := (List.drop_suffix (input.takeWhile (· = '#')).length input).length_le
    rw [opened, List.length_cons] at marks
    calc (afterSuffix between).length
      _ ≤ between.length := length_afterSuffix_le between
      _ < inside.length := takes_rawEnd _ _ inside between closed
      _ < input.length := marks
  next => cases found

theorem takes_quotedChar (content : Content) : Takes (quotedChar content) := by
  intro input rest found
  obtain ⟨between, before, after⟩ := Option.bind_eq_some_iff.mp found
  have opened : between.length < input.length := by
    split at before
    next => cases before
    next escape => exact Nat.lt_succ_of_lt (takes_escapeTail content escape between before)
    next => grind
  split at after
  next closed =>
    cases after
    exact Nat.lt_of_le_of_lt (length_afterSuffix_le closed) (Nat.lt_of_succ_lt opened)
  next => cases after

theorem takes_quoted : Takes quoted := by
  intro input rest
  fun_cases quoted input <;> grind [Takes, takes_cookedString, takes_rawString, takes_quotedChar]

/-! ## Numbers -/

theorem keeps_exponent : Keeps exponent := by
  intro input rest found
  have := length_dropWhile_le (· = '_') input
  grind [exponent]

theorem length_exponent_getD_le (input : List Char) (letter : Char) :
    ((exponent input).getD (letter :: input)).length ≤ (letter :: input).length := by
  cases found : exponent input with
  | none => exact Nat.le_refl _
  | some rest => exact Nat.le_succ_of_le (keeps_exponent input rest found)

theorem takes_floatDigits : Takes floatDigits := by
  intro input rest
  fun_cases floatDigits input <;>
    grind [keeps_exponent, length_exponent_getD_le, Keeps, length_dropWhile_le]

theorem keeps_afterAttachedWord : Keeps afterAttachedWord := by
  intro input rest
  fun_cases afterAttachedWord input <;> grind [takes_plainIdentifier, Takes]

theorem takes_float : Takes float :=
  .bind (.bind takes_floatDigits keeps_afterAttachedWord) keeps_wordBreak

/-- The first digit is taken as long as there has been none. -/
theorem length_baseDigits {base : Nat} {isEmpty : Bool} {input rest : List Char}
    (found : baseDigits base isEmpty input = some rest) :
    rest.length + isEmpty.toNat ≤ input.length := by
  have atMost := Bool.toNat_le isEmpty
  fun_induction baseDigits base isEmpty input <;> grind

theorem takes_baseDigits (base : Nat) : Takes (baseDigits base true) :=
  fun _ _ found => length_baseDigits found

theorem takes_integerDigits : Takes integerDigits := by
  intro input rest
  fun_cases integerDigits input <;> grind [takes_baseDigits, Takes]

theorem takes_integer : Takes integer :=
  .bind (.bind takes_integerDigits keeps_afterAttachedWord) keeps_wordBreak

theorem takes_literal : Takes literal :=
  .orElse takes_quoted (.orElse takes_float takes_integer)

/-! ## Lexemes -/

theorem length_mark {input rest : List Char} {token : Token}
    (found : mark input = some (token, rest)) : rest.length < input.length := by
  fun_cases mark input <;> grind [mark]

theorem length_leaf {input rest : List Char} {token : Token}
    (found : leaf input = some (token, rest)) : rest.length < input.length := by
  unfold leaf at found
  split at found
  next after literal =>
    cases found
    exact takes_literal input rest literal
  next =>
    split at found
    next marked =>
      cases found
      exact length_mark marked
    next =>
      obtain ⟨after, word, same⟩ := Option.map_eq_some_iff.mp found
      cases same
      exact takes_word input rest word

theorem length_docLine {inner : Bool} {word : String} {input : List Char}
    (begins : starts word input = true) (some : word.toList ≠ []) :
    (docLine inner input).rest.length < input.length := by
  have positive : 0 < input.length := by
    obtain ⟨behind, rfl⟩ := starts_iff.mp begins
    exact List.length_pos_iff.mpr (List.append_ne_nil_of_left_ne_nil some behind)
  calc (lineEnd (input.drop 3)).length
    _ ≤ (input.drop 3).length := length_lineEnd_le _
    _ = input.length - 3 := List.length_drop
    _ < input.length := Nat.sub_lt positive (by decide)

theorem length_docBlock {inner : Bool} {input : List Char} {comment : DocComment}
    (found : docBlock inner input = some comment) : comment.rest.length < input.length := by
  obtain ⟨rest, closed, rfl⟩ := Option.map_eq_some_iff.mp found
  exact takes_blockComment 0 input rest closed

theorem length_docComment {input : List Char} {comment : DocComment}
    (found : docComment input = some comment) : comment.rest.length < input.length := by
  obtain ⟨found, -⟩ := Option.filter_eq_some_iff.mp found
  split at found
  next line =>
    cases found
    exact length_docLine line (by decide)
  next =>
    split at found
    next => exact length_docBlock found
    next =>
      split at found
      next line =>
        split at found
        next => cases found
        next =>
          cases found
          exact length_docLine line (by decide)
      next =>
        split at found
        next => exact length_docBlock found
        next => cases found

/-- A lexeme takes some of the text. -/
theorem length_lexeme {input rest : List Char} {found : List Lexeme}
    (read : lexeme input = some (found, rest)) : rest.length < input.length := by
  unfold lexeme at read
  split at read
  next comment documented =>
    cases read
    exact length_docComment documented
  next =>
    cases input with
    | nil => cases read
    | cons first others =>
        dsimp only at read
        split at read
        next broken =>
          cases read
          exact Nat.lt_succ_of_le (List.drop_suffix 10 others).length_le
        next =>
          split at read
          next =>
            cases read
            exact Nat.lt_succ_self _
          next =>
            cases read
            exact Nat.lt_succ_self _
          next =>
            obtain ⟨⟨token, after⟩, single, same⟩ := Option.map_eq_some_iff.mp read
            cases same
            exact length_leaf single

/-! ## Steps -/

theorem skipBlanks_cons (steps : Nat) (first : Char) (rest : List Char) :
    skipBlanks (steps + 1) (first :: rest) = (plainComment (first :: rest)).elim
      (if isBlank first then skipBlanks steps rest else first :: rest) (skipBlanks steps) := by
  rw [skipBlanks]
  cases plainComment (first :: rest) with
  | none => rfl
  | some after => rfl

theorem length_skipBlanks_le (steps : Nat) (input : List Char) :
    (skipBlanks steps input).length ≤ input.length := by
  induction steps generalizing input with
  | zero => exact Nat.le_refl _
  | succ steps ih =>
      cases input with
      | nil => exact Nat.le_refl _
      | cons first rest =>
          rw [skipBlanks_cons]
          cases comment : plainComment (first :: rest) with
          | some after => exact Nat.le_trans (ih after) (Nat.le_of_lt (takes_plainComment _ _ comment))
          | none =>
              rw [Option.elim_none]
              split
              next => exact Nat.le_succ_of_le (ih rest)
              next => exact Nat.le_refl _

/-- Blanks and comments are passed over in as many steps as there are characters. -/
theorem skipBlanks_of_le {steps : Nat} {input : List Char} (enough : input.length ≤ steps) :
    skipBlanks steps input = skipBlanks input.length input := by
  suffices same : ∀ steps steps' input, input.length ≤ steps → input.length ≤ steps' →
      skipBlanks steps input = skipBlanks steps' input from
    same _ _ input enough (Nat.le_refl _)
  clear enough steps input
  intro steps
  induction steps with
  | zero =>
      intro steps' input none _
      rw [List.length_eq_zero_iff.mp (Nat.le_zero.mp none)]
      cases steps' with
      | zero => rfl
      | succ steps' => rfl
  | succ steps ih =>
      intro steps' input enough enough'
      cases input with
      | nil =>
          cases steps' with
          | zero => rfl
          | succ steps' => rfl
      | cons first rest =>
          obtain ⟨steps', rfl⟩ := Nat.exists_eq_succ_of_ne_zero (Nat.ne_zero_of_lt enough')
          rw [skipBlanks_cons, skipBlanks_cons]
          cases comment : plainComment (first :: rest) with
          | some after =>
              have shorter := takes_plainComment _ _ comment
              exact ih _ _ (Nat.le_of_lt_succ (Nat.lt_of_lt_of_le shorter enough))
                (Nat.le_of_lt_succ (Nat.lt_of_lt_of_le shorter enough'))
          | none =>
              rw [ih _ _ (Nat.le_of_succ_le_succ enough) (Nat.le_of_succ_le_succ enough')]
              rfl

/-- What stands behind the blanks and comments at the front of a text. -/
def solid (input : List Char) : List Char := skipBlanks input.length input

/-- The lexemes of a text are the first ones that stand behind its blanks and comments, and
then those of what is left. -/
theorem lexemes_succ (steps : Nat) (input : List Char) :
    lexemes (steps + 1) input = match solid input with
      | [] => some []
      | first :: rest => (lexeme (first :: rest)).bind fun found =>
          (lexemes steps found.2).map (found.1 ++ ·) := by
  rw [lexemes, ← solid]
  cases solid input with
  | nil => rfl
  | cons first rest =>
      cases read : lexeme (first :: rest) with
      | none =>
          dsimp only
          rw [read]
          rfl
      | some found =>
          dsimp only
          rw [read, Option.bind_some, Option.map_eq_bind]
          rfl

/-- More steps than characters change nothing. -/
theorem lexemes_of_lt {steps : Nat} {input : List Char} (enough : input.length < steps) :
    lexemes steps input = lexemes (input.length + 1) input := by
  suffices same : ∀ steps steps' input, input.length < steps → input.length < steps' →
      lexemes steps input = lexemes steps' input from
    same _ _ input enough (Nat.lt_succ_self _)
  clear enough steps input
  intro steps
  induction steps with
  | zero => exact fun _ _ none => absurd none (Nat.not_lt_zero _)
  | succ steps ih =>
      intro steps' input enough enough'
      obtain ⟨steps', rfl⟩ := Nat.exists_eq_succ_of_ne_zero (Nat.ne_zero_of_lt enough')
      have shorter : (solid input).length ≤ input.length := length_skipBlanks_le _ input
      rw [lexemes_succ, lexemes_succ]
      cases skipped : solid input with
      | nil => rfl
      | cons first rest =>
          rw [skipped] at shorter
          dsimp only
          cases read : lexeme (first :: rest) with
          | none => rfl
          | some found =>
              have taken := Nat.lt_of_lt_of_le (length_lexeme read) shorter
              rw [Option.bind_some, Option.bind_some,
                ih steps' found.2 (Nat.lt_of_lt_of_le taken (Nat.le_of_lt_succ enough))
                  (Nat.lt_of_lt_of_le taken (Nat.le_of_lt_succ enough'))]

/-! ## Comments at the front -/

/-- A text is divided as what stands behind its blanks and comments. -/
theorem lexemes_eq (input : List Char) :
    lexemes (input.length + 1) input = match solid input with
      | [] => some []
      | first :: rest => (lexeme (first :: rest)).bind fun found =>
          (lexemes (found.2.length + 1) found.2).map (found.1 ++ ·) := by
  have shorter : (solid input).length ≤ input.length := length_skipBlanks_le _ input
  rw [lexemes_succ]
  cases skipped : solid input with
  | nil => rfl
  | cons first rest =>
      rw [skipped] at shorter
      dsimp only
      cases read : lexeme (first :: rest) with
      | none => rfl
      | some found =>
          rw [Option.bind_some, Option.bind_some,
            lexemes_of_lt (Nat.lt_of_lt_of_le (length_lexeme read) shorter)]

/-- Blanks and comments at the front make no difference. -/
theorem lexemes_of_solid {input input' : List Char} (same : solid input = solid input') :
    lexemes (input.length + 1) input = lexemes (input'.length + 1) input' := by
  rw [lexemes_eq, lexemes_eq, same]

theorem solid_of_comment {input rest : List Char} (comment : plainComment input = some rest) :
    solid input = solid rest := by
  have shorter := takes_plainComment input rest comment
  cases input with
  | nil => cases shorter
  | cons first others =>
      rw [solid, List.length_cons, skipBlanks_cons, comment]
      exact skipBlanks_of_le (Nat.le_of_lt_succ shorter)

theorem solid_of_blank {first : Char} (blank : isBlank first = true) (uncommented : first ≠ '/')
    (rest : List Char) : solid (first :: rest) = solid rest := by
  rw [solid, List.length_cons, skipBlanks_cons, plainComment_eq_none uncommented]
  exact if_pos blank

theorem solid_lineEnd {line : List Char} (single : '\n' ∉ line) (rest : List Char) :
    solid (lineEnd (line ++ '\n' :: rest)) = solid rest := by
  have feed : solid ('\n' :: rest) = solid rest := solid_of_blank (by decide) (by decide) rest
  induction line with
  | nil => exact feed
  | cons first line ih =>
      rw [List.mem_cons, not_or] at single
      rw [List.cons_append]
      by_cases pair : first = '\r' ∧ line = []
      · obtain ⟨rfl, rfl⟩ := pair
        exact (solid_of_blank (by decide) (by decide) _).trans feed
      · rw [lineEnd_cons (Ne.symm single.1)]
        · exact ih single.2
        · intro others begins same
          cases line with
          | nil => exact pair ⟨begins, rfl⟩
          | cons second line =>
              cases same
              exact single.2 List.mem_cons_self

/-- A line that begins as a comment for readers is passed over. -/
theorem solid_line {line : List Char} (single : '\n' ∉ line) (rest : List Char) :
    solid ("// ".toList ++ (line ++ '\n' :: rest)) = solid rest := by
  have comment : plainComment ("// ".toList ++ (line ++ '\n' :: rest)) =
      some (lineEnd (line ++ '\n' :: rest)) := rfl
  rw [solid_of_comment comment]
  exact solid_lineEnd single rest

end RecordDerive.Grammar.Lexer
