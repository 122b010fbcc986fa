import Mathlib.Data.List.TakeWhile
import RecordDerive.Grammar.Lexer
import RecordDerive.Proofs.Grammar.PlainType
import RecordDerive.Proofs.Grammar.Progress

/-!
# Dividing plain types into tokens

A text is divided from the left, so what a part of it is divided into depends on that part
and on how what follows begins.  Names end where no identifier can go on, and everything
else in the text of a plain type is a token by its first character.
-/

namespace RecordDerive.Grammar

open Text (isIdentifierStart isIdentifierContinue)

/-! ## Characters of names -/

section Characters

variable {c d : Char}

theorem toNat_lt_of_isAsciiContinue (continues : isAsciiContinue c = true) : c.toNat < 128 := by
  have letter : c.isAlpha = (decide (c.val ≥ 'A'.val ∧ c.val ≤ 'Z'.val) ||
      decide (c.val ≥ 'a'.val) && decide (c.val ≤ 'z'.val)) := rfl
  have numeral : c.isDigit = (decide (c.val ≥ '0'.val) && decide (c.val ≤ '9'.val)) := rfl
  simp only [isAsciiContinue_iff, letter, numeral, Bool.or_eq_true,
    Bool.and_eq_true, decide_eq_true_eq, UInt32.le_iff_toNat_le, ge_iff_le] at continues
  have upper : 'Z'.val.toNat = 90 := rfl
  have lower : 'z'.val.toNat = 122 := rfl
  have digit : '9'.val.toNat = 57 := rfl
  rcases continues with characters | rfl
  · show c.val.toNat < 128
    omega
  · decide

theorem isAsciiContinue_of_isAsciiStart (starts : isAsciiStart c = true) :
    isAsciiContinue c = true :=
  isAsciiContinue_iff.mpr ((isAsciiStart_iff.mp starts).imp_left .inl)

theorem isIdentifierStart_of_isAsciiStart (starts : isAsciiStart c = true) :
    isIdentifierStart c = true := by
  have ascii := toNat_lt_of_isAsciiContinue (isAsciiContinue_of_isAsciiStart starts)
  simpa [isIdentifierStart, isAsciiStart, ascii] using starts

theorem isIdentifierContinue_of_isAsciiContinue (continues : isAsciiContinue c = true) :
    isIdentifierContinue c = true := by
  have ascii := toNat_lt_of_isAsciiContinue continues
  simpa [isIdentifierContinue, isAsciiContinue, ascii] using continues

theorem ne_of_isAsciiStart (starts : isAsciiStart c = true) (other : isAsciiStart d = false) :
    c ≠ d := by
  rintro rfl
  simp [other] at starts

/-- The front of a name is nothing else. -/
theorem odd_of_isAsciiStart (starts : isAsciiStart c = true) :
    Lexer.isBlank c = false ∧ Lexer.opens c = none ∧ Lexer.closes c = none ∧
      Lexer.markCharacters.contains c = false ∧ c.isDigit = false := by
  have each : ∀ number < 128, isAsciiStart (Char.ofNat number) = true →
      Lexer.isBlank (Char.ofNat number) = false ∧ Lexer.opens (Char.ofNat number) = none ∧
        Lexer.closes (Char.ofNat number) = none ∧
        Lexer.markCharacters.contains (Char.ofNat number) = false ∧
        (Char.ofNat number).isDigit = false := by decide
  have here := each c.toNat (toNat_lt_of_isAsciiContinue (isAsciiContinue_of_isAsciiStart starts))
  rw [Char.ofNat_toNat] at here
  exact here starts

end Characters

namespace Lexer

/-! ## Dividing from the left -/

/-- A text is divided into lexemes up to some later point of it. -/
inductive Divides : List Char → List Lexeme → List Char → Prop
  | done (input : List Char) : Divides input [] input
  | step {input rest after last : List Char} {first : Char} {found later : List Lexeme}
      (skipped : skipBlanks input.length input = first :: rest)
      (read : lexeme (first :: rest) = some (found, after)) (shorter : after.length < input.length)
      (divides : Divides after later last) : Divides input (found ++ later) last

variable {input between last rest : List Char} {found later : List Lexeme}

theorem Divides.trans (first : Divides input found between) (second : Divides between later last) :
    Divides input (found ++ later) last := by
  induction first with
  | done => exact second
  | step skipped read shorter divides ih =>
      rw [List.append_assoc]
      exact .step skipped read shorter (ih second)

theorem Divides.lexemes (divides : Divides input found last) (ended : last = []) {steps : Nat}
    (enough : input.length < steps) : lexemes steps input = some found := by
  induction divides generalizing steps with
  | done =>
      obtain ⟨steps, rfl⟩ := Nat.exists_eq_succ_of_ne_zero (Nat.ne_zero_of_lt enough)
      rw [ended]
      rfl
  | step skipped read shorter divides ih =>
      obtain ⟨steps, rfl⟩ := Nat.exists_eq_succ_of_ne_zero (Nat.ne_zero_of_lt enough)
      have rest := ih ended (Nat.lt_of_lt_of_le shorter (Nat.le_of_lt_succ enough))
      rw [lexemes_succ, solid, skipped]
      simp [read, rest]

/-! ## Single lexemes -/

theorem skipBlanks_eq {first : Char} (solid : isBlank first = false) (uncommented : first ≠ '/')
    (rest : List Char) :
    skipBlanks (first :: rest).length (first :: rest) = first :: rest := by
  rw [List.length_cons, skipBlanks_cons, plainComment_eq_none uncommented]
  simp [solid]

theorem docComment_eq_none {first : Char} (uncommented : first ≠ '/') (rest : List Char) :
    docComment (first :: rest) = none := by
  simp [docComment, starts_eq_false "//!" rfl uncommented.symm,
    starts_eq_false "/*!" rfl uncommented.symm, starts_eq_false "///" rfl uncommented.symm,
    starts_eq_false "/**" rfl uncommented.symm]

/-- A lexeme that no blank or comment stands before. -/
theorem Divides.one {first : Char} {token : Lexeme} (solid : isBlank first = false)
    (uncommented : first ≠ '/') (read : lexeme (first :: rest) = some ([token], last))
    (shorter : last.length ≤ rest.length) : Divides (first :: rest) [token] last :=
  .step (skipBlanks_eq solid uncommented rest) read (Nat.lt_succ_of_le shorter) (.done last)

/-- Blanks before a lexeme make no difference. -/
theorem Divides.blank (divides : Divides input found last) (some : found ≠ []) :
    Divides (' ' :: input) found last := by
  cases divides with
  | done => exact absurd rfl some
  | step skipped read shorter divides =>
      exact .step skipped read (Nat.lt_succ_of_lt shorter) divides

theorem Divides.opening {first : Char} {bracket : Bracket} (opens : opens first = some bracket)
    (uncommented : rest.head? ≠ some '/') : Divides (first :: rest) [.opening bracket] rest := by
  have whole : starts brokenLiteral (first :: rest) = false := by
    cases rest with
    | nil => simp [starts, brokenLiteral, List.isPrefixOf]
    | cons second others =>
        have differs : '/' ≠ second := fun same => uncommented (by rw [← same]; rfl)
        simp [starts, brokenLiteral, List.isPrefixOf, differs]
  unfold Lexer.opens at opens
  split at opens
  all_goals cases opens
  all_goals
    refine .one (by decide) (by decide) ?_ (Nat.le_refl _)
    rw [lexeme, docComment_eq_none (by decide), whole]
    rfl

theorem Divides.closing {first : Char} {bracket : Bracket} (closes : closes first = some bracket) :
    Divides (first :: rest) [.closing bracket] rest := by
  unfold Lexer.closes at closes
  split at closes
  all_goals cases closes
  all_goals exact .one (by decide) (by decide) rfl (Nat.le_refl _)

/-- The marks in the text of a type. -/
def typeMarks : List Char := [':', '<', '>', ',', ';']

theorem atMark_of_mem {first : Char} (listed : first ∈ typeMarks) (rest : List Char) :
    atMark (first :: rest) = true := by
  simp only [typeMarks, List.mem_cons, List.not_mem_nil, or_false] at listed
  rcases listed with rfl | rfl | rfl | rfl | rfl
  all_goals rfl

theorem Divides.mark {first : Char} (listed : first ∈ typeMarks) :
    Divides (first :: rest) [.leaf (.mark first (atMark rest))] rest := by
  simp only [typeMarks, List.mem_cons, List.not_mem_nil, or_false] at listed
  rcases listed with rfl | rfl | rfl | rfl | rfl
  all_goals exact .one (by decide) (by decide) rfl (Nat.le_refl _)

/-! ## Names -/

/-- The characters that may follow a name. -/
def nameEnds : List Char := [' ', ',', ';', ':', '<', '>', ')', ']']

/-- Whether a name ends in front of a text. -/
def EndsName (rest : List Char) : Prop := ∀ c, rest.head? = some c → c ∈ nameEnds

theorem nameEnds_stop : ∀ c ∈ nameEnds,
    isAsciiContinue c = false ∧ isIdentifierContinue c = false := by
  have each : nameEnds.all (fun c => !isAsciiContinue c && !isIdentifierContinue c) = true := by
    decide
  simpa using each

theorem dropWhile_of_endsName (ends : EndsName rest) {text : List Char}
    (continues : ∀ c ∈ text, isAsciiContinue c = true) :
    (text ++ rest).dropWhile isIdentifierContinue = rest := by
  rw [List.dropWhile_append_of_pos fun c member =>
    isIdentifierContinue_of_isAsciiContinue (continues c member)]
  cases rest with
  | nil => rfl
  | cons first others =>
      rw [List.dropWhile_cons_of_neg]
      simp [(nameEnds_stop first (ends first rfl)).2]

/-- A name is not mistaken for an opening that goes on where a name cannot. -/
theorem not_starts {letters more : List Char} {odd : Char}
    (continues : ∀ c ∈ letters, isAsciiContinue c = true) (stops : isAsciiContinue odd = false)
    (other : odd ∉ nameEnds) (ends : EndsName rest) {text : List Char}
    (named : ∀ c ∈ text, isAsciiContinue c = true) :
    ¬(letters ++ odd :: more) <+: text ++ rest := by
  induction letters generalizing text with
  | nil =>
      rintro ⟨behind, same⟩
      cases text with
      | nil =>
          apply other
          apply ends
          rw [← List.nil_append rest, ← same]
          rfl
      | cons first text =>
          injection same with same _
          simp [same, named first List.mem_cons_self] at stops
  | cons letter letters ih =>
      rintro ⟨behind, same⟩
      cases text with
      | nil =>
          have ended : letter ∈ nameEnds := by
            apply ends
            rw [← List.nil_append rest, ← same]
            rfl
          have goes := continues letter List.mem_cons_self
          simp [(nameEnds_stop letter ended).1] at goes
      | cons first text =>
          injection same with _ same
          exact ih (fun c member => continues c (List.mem_cons_of_mem _ member))
            (fun c member => named c (List.mem_cons_of_mem _ member)) ⟨behind, same⟩

/-- The marks that make a quotation of the letters before them. -/
def quotations : List Char := ['#', '"', '\'']

theorem quotations_odd : ∀ c ∈ quotations, isAsciiContinue c = false ∧ c ∉ nameEnds := by
  have each : quotations.all (fun c => !isAsciiContinue c && !nameEnds.contains c) = true := by
    decide
  simpa using each

/-- Whether no quotation goes on at the front of a text. -/
def Unquoted (input : List Char) : Prop := ∀ c, input.head? = some c → c ∉ quotations

theorem unquoted_append (ends : EndsName rest) {text : List Char}
    (named : ∀ c ∈ text, isAsciiContinue c = true) : Unquoted (text ++ rest) := by
  intro c found listed
  obtain ⟨stops, other⟩ := quotations_odd c listed
  cases text with
  | nil => exact other (ends c found)
  | cons first text =>
      cases found
      simpa [stops] using named c List.mem_cons_self

theorem rawString_eq_none (unquoted : Unquoted input) (content : Content) :
    rawString content input = none := by
  cases input with
  | nil => rfl
  | cons first rest =>
      have odd : first ∉ ['#', '"', '\''] := unquoted first rfl
      simp only [List.mem_cons, not_or] at odd
      simp [rawString, odd]

theorem unquoted_tail (ends : EndsName rest) {text tail : List Char} {letter : Char}
    (named : ∀ c ∈ text, isAsciiContinue c = true) (continues : isAsciiContinue letter = true)
    (same : text ++ rest = letter :: tail) : Unquoted tail := by
  cases text with
  | nil =>
      have ended : letter ∈ nameEnds := ends letter (by rw [← List.nil_append rest, same]; rfl)
      simp [(nameEnds_stop letter ended).1] at continues
  | cons first text =>
      injection same with _ same
      rw [← same]
      exact unquoted_append ends fun c member => named c (List.mem_cons_of_mem _ member)

/-- A name opens no quotation. -/
theorem quoted_eq_none (ends : EndsName rest) {first : Char} {text : List Char}
    (starts : isAsciiStart first = true) (named : ∀ c ∈ text, isAsciiContinue c = true) :
    quoted (first :: (text ++ rest)) = none := by
  have unquoted := unquoted_append ends named
  generalize same : first :: (text ++ rest) = input
  unfold quoted
  split
  any_goals injection same with front behind
  next => exact absurd front (ne_of_isAsciiStart starts (by decide))
  next => exact rawString_eq_none (behind ▸ unquoted) _
  next => exact absurd (by decide) (unquoted '"' (by rw [behind]; rfl))
  next => exact rawString_eq_none (unquoted_tail ends named (by decide) behind) _
  next => exact absurd (by decide) (unquoted '"' (by rw [behind]; rfl))
  next => exact rawString_eq_none (unquoted_tail ends named (by decide) behind) _
  next => exact absurd (by decide) (unquoted '\'' (by rw [behind]; rfl))
  next => exact absurd front (ne_of_isAsciiStart starts (by decide))
  next => rfl

theorem ten_le_digitValue {c : Char} {value : Nat} (undigited : c.isDigit = false)
    (found : digitValue c = some value) : 10 ≤ value := by
  rw [digitValue, Option.ite_none_right_eq_some, hexValue, undigited, if_neg (by simp)] at found
  obtain ⟨-, found⟩ := found
  split at found
  all_goals
    cases found
    exact Nat.le_add_left _ _

theorem baseDigits_eq_none {first : Char} (undigited : first.isDigit = false) (rest : List Char) :
    baseDigits 10 true (first :: rest) = none := by
  unfold baseDigits
  split
  next empty => cases empty
  next => rfl
  next letter others _ same =>
    injection same with same _
    subst same
    split
    next value found =>
      have large := ten_le_digitValue undigited found
      rw [if_neg (Nat.not_lt.mpr large), undigited]
      rfl
    next => rfl

theorem integerDigits_eq_none {first : Char} (undigited : first.isDigit = false)
    (rest : List Char) : integerDigits (first :: rest) = none := by
  unfold integerDigits
  split
  next same =>
    injection same with same _
    subst same
    cases undigited
  next same =>
    injection same with same _
    subst same
    cases undigited
  next same =>
    injection same with same _
    subst same
    cases undigited
  next => exact baseDigits_eq_none undigited rest

theorem literal_eq_none (ends : EndsName rest) {first : Char} {text : List Char}
    (starts : isAsciiStart first = true) (named : ∀ c ∈ text, isAsciiContinue c = true) :
    literal (first :: (text ++ rest)) = none := by
  have undigited : first.isDigit = false := (odd_of_isAsciiStart starts).2.2.2.2
  have whole : integer (first :: (text ++ rest)) = none := by
    rw [integer, integerDigits_eq_none undigited]
    rfl
  have fraction : float (first :: (text ++ rest)) = none := by
    simp [float, floatDigits, undigited]
  rw [literal, quoted_eq_none ends starts named, whole, fraction]
  rfl

/-- Letters and a quotation behind them are not at the front of a name. -/
theorem starts_eq_false_of_quoted {opening : String} (ends : EndsName rest) {text : List Char}
    (named : ∀ c ∈ text, isAsciiContinue c = true)
    (quotes : (opening.toList.dropWhile isAsciiContinue).head?.any quotations.contains = true) :
    starts opening (text ++ rest) = false := by
  rw [starts, Bool.eq_false_iff, ne_eq, List.isPrefixOf_iff_prefix,
    ← List.takeWhile_append_dropWhile (l := opening.toList)]
  cases behind : opening.toList.dropWhile isAsciiContinue with
  | nil =>
      rw [behind] at quotes
      cases quotes
  | cons odd more =>
      rw [behind] at quotes
      have listed : odd ∈ quotations := by simpa using quotes
      obtain ⟨stops, other⟩ := quotations_odd odd listed
      exact not_starts (fun c member => List.mem_takeWhile_imp member) stops other ends named

theorem consumed_append (before after : List Char) :
    consumed (before ++ after) after = String.ofList before := by
  rw [consumed, List.length_append, Nat.add_sub_cancel, List.take_left]

theorem word_eq (ends : EndsName rest) {first : Char} {others : List Char}
    (front : isAsciiStart first = true) (named : ∀ c ∈ others, isAsciiContinue c = true) :
    word (first :: (others ++ rest)) = some rest := by
  have all : ∀ c ∈ first :: others, isAsciiContinue c = true :=
    List.forall_mem_cons.mpr ⟨isAsciiContinue_of_isAsciiStart front, named⟩
  have unopened : literalOpenings.any (starts · (first :: (others ++ rest))) = false := by
    rw [List.any_eq_false]
    intro opening listed
    have quotes : ∀ opening ∈ literalOpenings,
        (opening.toList.dropWhile isAsciiContinue).head?.any quotations.contains = true := by
      decide
    exact Bool.eq_false_iff.mp (starts_eq_false_of_quoted ends all (quotes opening listed))
  have cooked : starts "r#" (first :: (others ++ rest)) = false :=
    starts_eq_false_of_quoted ends all (by decide)
  rw [word, unopened, if_neg (by decide), identifier, cooked, if_neg (by decide), plainIdentifier,
    if_pos (isIdentifierStart_of_isAsciiStart front), dropWhile_of_endsName ends named]

theorem Divides.word {text : String} (identifier : isAsciiIdentifier text = true)
    (ends : EndsName rest) : Divides (text.toList ++ rest) [.leaf (.word text)] rest := by
  obtain ⟨first, others, spelled, front, named⟩ := exists_of_isAsciiIdentifier identifier
  obtain ⟨solid, unopened, unclosed, unmarked, -⟩ := odd_of_isAsciiStart front
  have uncommented : first ≠ '/' := ne_of_isAsciiStart front (by decide)
  have whole : starts brokenLiteral (first :: (others ++ rest)) = false :=
    starts_eq_false _ rfl (ne_of_isAsciiStart front (by decide)).symm _
  have single : Lexer.mark (first :: (others ++ rest)) = none := by
    have none : atMark (first :: (others ++ rest)) = false := by
      rw [atMark, unmarked]
      rfl
    simp [Lexer.mark, none]
  have consumes : consumed (first :: (others ++ rest)) rest = text := by
    rw [← List.cons_append, ← spelled, consumed_append, String.ofList_toList]
  have leaf : leaf (first :: (others ++ rest)) = some (.word text, rest) := by
    rw [Lexer.leaf, literal_eq_none ends front named, single, word_eq ends front named,
      Option.map_some, consumes]
  have read : lexeme (first :: (others ++ rest)) = some ([.leaf (.word text)], rest) := by
    rw [lexeme, docComment_eq_none uncommented]
    simp [whole, unopened, unclosed, leaf]
  rw [spelled]
  refine .one solid uncommented read ?_
  simp

/-! ## Numbers -/

theorem nameEnds_odd : ∀ c ∈ nameEnds,
    isIdentifierStart c = false ∧ isDigitOrGap c = false ∧ digitValue c = none ∧ c ≠ '_' ∧
      c ∉ ['.', 'e', 'E', 'x', 'o', 'b'] := by
  have each : nameEnds.all (fun c => !isIdentifierStart c && !isDigitOrGap c &&
      (digitValue c).isNone && c != '_' &&
      !(['.', 'e', 'E', 'x', 'o', 'b'].contains c)) = true := by
    decide
  simpa [and_assoc] using each

theorem digitValue_of_isDigit {c : Char} (digit : c.isDigit = true) :
    ∃ value, digitValue c = some value ∧ value < 10 := by
  refine ⟨c.toNat - '0'.toNat, ?_, ?_⟩
  · simp [digitValue, isHexDigit, hexValue, digit]
  · simp only [Char.isDigit, Bool.and_eq_true, decide_eq_true_eq, UInt32.le_iff_toNat_le] at digit
    have nine : '9'.val.toNat = 57 := rfl
    have zero : '0'.toNat = 48 := rfl
    have same : c.toNat = c.val.toNat := rfl
    omega

theorem baseDigits_eq (ends : EndsName rest) {digits : List Char}
    (all : ∀ c ∈ digits, c.isDigit = true) {isEmpty : Bool}
    (filled : isEmpty = true → digits ≠ []) :
    baseDigits 10 isEmpty (digits ++ rest) = some rest := by
  induction digits generalizing isEmpty with
  | nil =>
      have full : isEmpty = false := by simpa using filled
      subst full
      cases rest with
      | nil => rfl
      | cons c others =>
          obtain ⟨-, -, none, other, -⟩ := nameEnds_odd c (ends c rfl)
          rw [List.nil_append, baseDigits.eq_3 _ _ _ _ other, none]
          rfl
  | cons first others ih =>
      have digit := all first List.mem_cons_self
      obtain ⟨value, found, small⟩ := digitValue_of_isDigit digit
      have other : first ≠ '_' := by
        rintro rfl
        cases digit
      have later := ih (fun c member => all c (List.mem_cons_of_mem _ member))
        (nofun : false = true → others ≠ [])
      rw [List.cons_append, baseDigits.eq_3 _ _ _ _ other, found]
      simp [small, later]

/-- Behind its first digit a number goes on with a digit or ends. -/
theorem digit_or_end (ends : EndsName rest) {digits tail : List Char} {first second : Char}
    (all : ∀ c ∈ digits, c.isDigit = true) (filled : digits ≠ [])
    (same : digits ++ rest = first :: second :: tail) :
    second.isDigit = true ∨ second ∈ nameEnds := by
  cases digits with
  | nil => exact absurd rfl filled
  | cons digit digits =>
      injection same with _ same
      cases digits with
      | nil =>
          have behind : rest = second :: tail := same
          exact .inr (ends second (by rw [behind]; rfl))
      | cons digit' digits =>
          injection same with same _
          exact .inl (same ▸ all digit' (by simp))

theorem integer_eq (ends : EndsName rest) {digits : List Char}
    (all : ∀ c ∈ digits, c.isDigit = true) (filled : digits ≠ []) :
    integer (digits ++ rest) = some rest := by
  have whole : integerDigits (digits ++ rest) = some rest := by
    have decimal : baseDigits 10 true (digits ++ rest) = some rest :=
      baseDigits_eq ends all fun _ => filled
    have goes := fun first second tail =>
      @digit_or_end rest ends digits tail first second all filled
    generalize digits ++ rest = input at decimal goes ⊢
    unfold integerDigits
    split
    next => exact absurd (goes _ _ _ rfl) (by decide)
    next => exact absurd (goes _ _ _ rfl) (by decide)
    next => exact absurd (goes _ _ _ rfl) (by decide)
    next => exact decimal
  have suffixed : afterAttachedWord rest = some rest := by
    cases rest with
    | nil => rfl
    | cons c others => simp [afterAttachedWord, nameEnds_odd c (ends c rfl)]
  have broken : wordBreak rest = some rest := by
    cases rest with
    | nil => rfl
    | cons c others => simp [wordBreak, nameEnds_stop c (ends c rfl)]
  rw [integer, whole, Option.bind_some, suffixed, Option.bind_some, broken]

theorem floatDigits_eq_none (ends : EndsName rest) {digits : List Char}
    (all : ∀ c ∈ digits, c.isDigit = true) : floatDigits (digits ++ rest) = none := by
  have behind : (digits ++ rest).dropWhile isDigitOrGap = rest := by
    rw [List.dropWhile_append_of_pos fun c member => by simp [isDigitOrGap, all c member]]
    cases rest with
    | nil => rfl
    | cons c others =>
        rw [List.dropWhile_cons_of_neg]
        simp [nameEnds_odd c (ends c rfl)]
  unfold floatDigits
  split
  next => rfl
  next first others same =>
    split
    next => rfl
    next =>
      rw [behind]
      cases rest with
      | nil => rfl
      | cons c others =>
          have odd := (nameEnds_odd c (ends c rfl)).2.2.2.2
          simp only [List.mem_cons, not_or] at odd
          simp [odd]

theorem quoted_eq_none_of_isDigit {first : Char} (digit : first.isDigit = true)
    (others : List Char) :
    quoted (first :: others) = none := by
  unfold quoted
  split
  any_goals
    rename_i same
    injection same with same _
    subst same
    cases digit
  rfl

theorem isBlank_eq_false_of_isDigit {c : Char} (digit : c.isDigit = true) :
    isBlank c = false ∧ opens c = none ∧ closes c = none := by
  have each : ∀ number < 58, (Char.ofNat number).isDigit = true →
      isBlank (Char.ofNat number) = false ∧ opens (Char.ofNat number) = none ∧
        closes (Char.ofNat number) = none := by decide
  have small : c.toNat < 58 := by
    simp only [Char.isDigit, Bool.and_eq_true, decide_eq_true_eq, UInt32.le_iff_toNat_le] at digit
    have nine : '9'.val.toNat = 57 := rfl
    have same : c.toNat = c.val.toNat := rfl
    omega
  have here := each c.toNat small
  rw [Char.ofNat_toNat] at here
  exact here digit

theorem Divides.number (ends : EndsName rest) {text : String} (filled : text ≠ "")
    (all : ∀ c ∈ text.toList, c.isDigit = true) :
    Divides (text.toList ++ rest) [.leaf (.literal text)] rest := by
  cases spelled : text.toList with
  | nil => exact absurd (String.toList_eq_nil_iff.mp spelled) filled
  | cons first others =>
      rw [spelled] at all
      have digit := all first List.mem_cons_self
      have whole := integer_eq ends all (List.cons_ne_nil first others)
      have unpointed := floatDigits_eq_none ends all
      rw [List.cons_append] at whole unpointed ⊢
      obtain ⟨solid, unopened, unclosed⟩ := isBlank_eq_false_of_isDigit digit
      have other : ∀ c, c.isDigit = false → c ≠ first := by
        rintro c undigited rfl
        simp [digit] at undigited
      have literal : literal (first :: (others ++ rest)) = some rest := by
        rw [Lexer.literal, quoted_eq_none_of_isDigit digit, float, unpointed, whole]
        rfl
      have consumes : consumed (first :: (others ++ rest)) rest = text := by
        rw [← List.cons_append, ← spelled, consumed_append, String.ofList_toList]
      have read : lexeme (first :: (others ++ rest)) = some ([.leaf (.literal text)], rest) := by
        rw [lexeme, docComment_eq_none (other '/' rfl).symm]
        simp [starts_eq_false brokenLiteral rfl (other '(' rfl), unopened, unclosed, leaf, literal,
          consumes]
      refine .one solid (other '/' rfl).symm read ?_
      simp

end Lexer

/-! ## Groups -/

namespace Token

open Lexer (Lexeme)

mutual

/-- The lexemes of a token. -/
def flatten : Token → List Lexeme
  | .group bracket inside => .opening bracket :: (flattenAll inside ++ [.closing bracket])
  | .word text => [.leaf (.word text)]
  | .mark character joined => [.leaf (.mark character joined)]
  | .literal text => [.leaf (.literal text)]

/-- The lexemes of tokens. -/
def flattenAll : List Token → List Lexeme
  | [] => []
  | first :: rest => first.flatten ++ flattenAll rest

end

@[simp] theorem flatten_group (bracket : Bracket) (inside : List Token) :
    (group bracket inside).flatten =
      .opening bracket :: (flattenAll inside ++ [.closing bracket]) := rfl

@[simp] theorem flatten_word (text : String) : (word text).flatten = [.leaf (.word text)] := rfl

@[simp] theorem flatten_mark (character : Char) (joined : Bool) :
    (mark character joined).flatten = [.leaf (.mark character joined)] := rfl

@[simp] theorem flatten_literal (text : String) :
    (literal text).flatten = [.leaf (.literal text)] := rfl

@[simp] theorem flattenAll_nil : flattenAll [] = [] := rfl

@[simp] theorem flattenAll_cons (first : Token) (rest : List Token) :
    flattenAll (first :: rest) = first.flatten ++ flattenAll rest := rfl

@[simp] theorem flattenAll_append (first second : List Token) :
    flattenAll (first ++ second) = flattenAll first ++ flattenAll second := by
  induction first with
  | nil => rfl
  | cons token rest ih => simp [ih]

mutual

theorem nest_flatten (enclosing : List (Bracket × List Token)) (before : List Token)
    (more : List Lexeme) : (token : Token) →
      Lexer.nest enclosing before (token.flatten ++ more) =
        Lexer.nest enclosing (token :: before) more
  | .group bracket inside => by
      have ih := nest_flattenAll ((bracket, before) :: enclosing) [] (.closing bracket :: more)
        inside
      simp [Lexer.nest, ih]
  | .word text => by simp [Lexer.nest]
  | .mark character joined => by simp [Lexer.nest]
  | .literal text => by simp [Lexer.nest]

/-- Putting lexemes into groups gives back the tokens they are of. -/
theorem nest_flattenAll (enclosing : List (Bracket × List Token)) (before : List Token)
    (more : List Lexeme) : (tokens : List Token) →
      Lexer.nest enclosing before (flattenAll tokens ++ more) =
        Lexer.nest enclosing (tokens.reverse ++ before) more
  | [] => rfl
  | first :: rest => by
      rw [flattenAll_cons, List.append_assoc, nest_flatten enclosing before _ first,
        nest_flattenAll enclosing _ more rest]
      simp

end

end Token

end RecordDerive.Grammar
