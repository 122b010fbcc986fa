import RecordDerive.Proofs.Grammar.Reading
import RecordDerive.Proofs.Grammar.Scanning
import RecordDerive.Proofs.Text.Segments

/-!
# From texts to phrases

The text of a plain type is divided into the tokens of the type, and these are read for its
phrase; so the texts that metadata renders are types of the grammar.  The same holds of the
paths that names make up.
-/

namespace RecordDerive.Grammar

open Lexer (Divides EndsName atMark)
open Metadata (NameTable)
open Token (flattenAll)

variable {rest : List Char}

/-! ## How texts begin -/

/-- A text that begins with an ASCII character that is no mark. -/
def Unmarked (input : List Char) : Prop :=
  ∃ first more, input = first :: more ∧ first.toNat < 128 ∧
    Lexer.markCharacters.contains first = false

namespace Unmarked

variable {input : List Char}

theorem append (unmarked : Unmarked input) (rest : List Char) : Unmarked (input ++ rest) := by
  obtain ⟨first, more, rfl, free⟩ := unmarked
  exact ⟨first, more ++ rest, rfl, free⟩

theorem atMark (unmarked : Unmarked input) : atMark input = false := by
  obtain ⟨first, more, rfl, -, free⟩ := unmarked
  rw [Lexer.atMark, free]
  rfl

theorem uncommented (unmarked : Unmarked input) : input.head? ≠ some '/' := by
  obtain ⟨first, more, rfl, -, free⟩ := unmarked
  intro same
  cases same
  exact absurd free (by decide)

theorem withoutByteOrderMark (unmarked : Unmarked input) :
    Lexer.withoutByteOrderMark input = input := by
  obtain ⟨first, more, rfl, ascii, -⟩ := unmarked
  rw [Lexer.withoutByteOrderMark, if_neg]
  intro same
  rw [same] at ascii
  exact absurd ascii (by decide)

end Unmarked

theorem unmarked_of_isAsciiIdentifier {text : String} (identifier : isAsciiIdentifier text = true) :
    Unmarked text.toList := by
  obtain ⟨first, more, spelled, front, -⟩ := exists_of_isAsciiIdentifier identifier
  have ascii := toNat_lt_of_isAsciiContinue (isAsciiContinue_of_isAsciiStart front)
  rw [spelled]
  exact ⟨first, more, rfl, ascii, (odd_of_isAsciiStart front).2.2.2.1⟩

theorem unmarked_join {first : String} (identifier : isAsciiIdentifier first = true)
    (others : List String) : Unmarked (Text.join (first :: others)).toList := by
  have unmarked := unmarked_of_isAsciiIdentifier identifier
  cases others with
  | nil => exact unmarked
  | cons second others =>
      rw [Text.join_cons_cons, String.toList_append, String.toList_append]
      exact (unmarked.append _).append _

/-! ## Paths -/

theorem endsName_nil : EndsName [] := nofun

theorem endsName_cons {c : Char} (listed : c ∈ Lexer.nameEnds) (rest : List Char) :
    EndsName (c :: rest) := by
  intro found same
  cases same
  exact listed

/-- The marks of a separator are joined to each other, and not to a name behind them. -/
theorem divides_separator {input : List Char} {found : List Lexer.Lexeme}
    (unmarked : Unmarked input) (divides : Divides input found rest) :
    Divides (':' :: ':' :: input) (flattenAll colons ++ found) rest := by
  have first : Divides (':' :: ':' :: input) [.leaf (.mark ':' true)] (':' :: input) := by
    have joined : atMark (':' :: input) = true := Lexer.atMark_of_mem (by decide) input
    rw [← joined]
    exact Divides.mark (by decide)
  have second : Divides (':' :: input) [.leaf (.mark ':' false)] input := by
    rw [← unmarked.atMark]
    exact Divides.mark (by decide)
  exact first.trans (second.trans divides)

theorem divides_words {words : List String}
    (identifiers : ∀ word ∈ words, isAsciiIdentifier word = true) (ends : EndsName rest) :
    Divides ((Text.join words).toList ++ rest) (flattenAll (wordTokens words)) rest := by
  induction words with
  | nil => exact .done rest
  | cons first others ih =>
      have here := identifiers first List.mem_cons_self
      cases others with
      | nil => exact Divides.word here ends
      | cons second others =>
          obtain ⟨-, identifiers⟩ := List.forall_mem_cons.mp identifiers
          have unmarked := unmarked_join (identifiers second List.mem_cons_self) others
          have later := divides_separator (unmarked.append rest) (ih identifiers)
          have all := (Divides.word here (endsName_cons (by decide) _)).trans later
          rw [Text.join_cons_cons, wordTokens_cons]
          simpa [Text.separator] using all

/-! ## Types -/

theorem isDigit_of_mem_toString (number : Nat) :
    ∀ c ∈ (toString number).toList, c.isDigit = true := by
  rw [Nat.toString_eq_repr, Nat.toList_repr]
  intro c member
  exact Nat.isDigit_of_mem_toDigits (by decide) (by decide) member

theorem toString_ne_empty (number : Nat) : toString number ≠ "" := by
  intro empty
  have digits : Nat.toDigits 10 number = [] := by
    rw [← Nat.toList_repr, ← Nat.toString_eq_repr, empty]
    rfl
  exact Nat.toDigits_ne_nil digits

namespace PlainType

theorem identifiers (names : List PlainName) :
    ∀ word ∈ PlainName.texts names, isAsciiIdentifier word = true := by
  intro word member
  obtain ⟨name, -, rfl⟩ := List.mem_map.mp member
  exact (Bool.and_eq_true_iff.mp name.plain).1

theorem unmarked (type : PlainType) : Unmarked type.text.toList := by
  cases type with
  | applied first others arguments =>
      have named := unmarked_join (identifiers (first :: others) _ List.mem_cons_self)
        (PlainName.texts others)
      rw [text_applied, NameTable.appliedText]
      split
      next => exact named
      next =>
        simp only [String.toList_append, List.append_assoc]
        exact named.append _
  | tuple elements =>
      rw [text_tuple]
      unfold NameTable.tupleText
      split
      all_goals exact ⟨'(', _, by simp; rfl, by decide, rfl⟩
  | array element length =>
      rw [text_array]
      exact ⟨'[', _, by simp; rfl, by decide, rfl⟩

/-- In front of what ends it, the text of a type is divided into its tokens. -/
def Divisible (type : PlainType) : Prop :=
  ∀ {rest : List Char}, EndsName rest →
    Divides (type.text.toList ++ rest) (flattenAll (type.tokens (atMark rest))) rest

theorem flattenAll_ne_nil (type : PlainType) (followed : Bool) :
    flattenAll (type.tokens followed) ≠ [] := by
  have front := type.front followed []
  rw [List.append_nil] at front
  generalize type.tokens followed = tokens at front
  cases front <;> simp

theorem flattenAll_listTokens_ne_nil (followed : Bool) (first : PlainType)
    (others : List PlainType) : flattenAll (listTokens followed (first :: others)) ≠ [] := by
  cases others with
  | nil => exact first.flattenAll_ne_nil followed
  | cons second others => simp [listTokens_cons]

theorem listing_texts (first second : PlainType) (others : List PlainType) :
    NameTable.listing (texts (first :: second :: others)) =
      first.text ++ ", " ++ NameTable.listing (texts (second :: others)) :=
  String.intercalate_cons_cons

theorem unmarked_listing (first : PlainType) (others : List PlainType) :
    Unmarked (NameTable.listing (texts (first :: others))).toList := by
  cases others with
  | nil => simpa [NameTable.listing] using first.unmarked
  | cons second others =>
      rw [listing_texts, String.toList_append, String.toList_append]
      exact (first.unmarked.append _).append _

theorem divides_listing {types : List PlainType} (divisible : ∀ type ∈ types, type.Divisible)
    (ends : EndsName rest) :
    Divides ((NameTable.listing (texts types)).toList ++ rest)
      (flattenAll (listTokens (atMark rest) types)) rest := by
  induction types with
  | nil => exact .done rest
  | cons first others ih =>
      have here : first.Divisible := divisible first List.mem_cons_self
      cases others with
      | nil => simpa [listTokens_single, NameTable.listing] using here ends
      | cons second others =>
          have later := ih (List.forall_mem_cons.mp divisible).2
          have comma (rest : List Char) :
              Divides (',' :: ' ' :: rest) [.leaf (.mark ',' false)] (' ' :: rest) :=
            Divides.mark (by decide)
          have behind := (comma _).trans (later.blank (flattenAll_listTokens_ne_nil _ _ _))
          have all := (here (endsName_cons (by decide) _)).trans behind
          rw [Lexer.atMark_of_mem (by decide)] at all
          rw [listing_texts]
          simpa [listTokens_cons] using all

/-! ### By form -/

theorem divisible_name (first : PlainName) (others : List PlainName) :
    Divisible (.applied first others []) := by
  intro rest ends
  simpa [text_applied, tokens_name, NameTable.appliedText] using
    divides_words (identifiers (first :: others)) ends

theorem divisible_applied (first : PlainName) (others : List PlainName) {argument : PlainType}
    {arguments : List PlainType} (ih : ∀ type ∈ argument :: arguments, type.Divisible) :
    Divisible (.applied first others (argument :: arguments)) := by
  intro rest ends
  have words (input : List Char) := divides_words (identifiers (first :: others))
    (endsName_cons (c := '<') (by decide) input)
  have opening (rest : List Char) :
      Divides ('<' :: rest) [.leaf (.mark '<' (atMark rest))] rest := Divides.mark (by decide)
  have inside := divides_listing ih (endsName_cons (c := '>') (by decide) rest)
  have closing : Divides ('>' :: rest) [.leaf (.mark '>' (atMark rest))] rest :=
    Divides.mark (by decide)
  have all := (words _).trans ((opening _).trans (inside.trans closing))
  rw [((unmarked_listing argument arguments).append _).atMark,
    Lexer.atMark_of_mem (by decide)] at all
  simpa [text_applied, tokens_applied, NameTable.appliedText] using all

theorem divides_round {rest : List Char} (uncommented : rest.head? ≠ some '/') :
    Divides ('(' :: rest) [.opening .round] rest :=
  Divides.opening rfl uncommented

theorem divisible_unit : Divisible (.tuple []) := by
  intro rest ends
  have closing : Divides (')' :: rest) [.closing .round] rest := Divides.closing rfl
  have all := (divides_round (by simp)).trans closing
  simpa [text_tuple, tokens_unit, NameTable.tupleText, NameTable.listing] using all

theorem divisible_single {only : PlainType} (ih : only.Divisible) : Divisible (.tuple [only]) := by
  intro rest ends
  have comma : Divides (',' :: ')' :: rest) [.leaf (.mark ',' false)] (')' :: rest) :=
    Divides.mark (by decide)
  have closing : Divides (')' :: rest) [.closing .round] rest := Divides.closing rfl
  have inside := (ih (endsName_cons (by decide) _)).trans (comma.trans closing)
  rw [Lexer.atMark_of_mem (by decide)] at inside
  have all := (divides_round (only.unmarked.append _).uncommented).trans inside
  simpa [text_tuple, NameTable.tupleText, tokens_single] using all

theorem divisible_several {first second : PlainType} {others : List PlainType}
    (ih : ∀ type ∈ first :: second :: others, type.Divisible) :
    Divisible (.tuple (first :: second :: others)) := by
  intro rest ends
  have closing : Divides (')' :: rest) [.closing .round] rest := Divides.closing rfl
  have inside := (divides_listing ih (endsName_cons (by decide) _)).trans closing
  have closed : atMark (')' :: rest) = false := rfl
  rw [closed] at inside
  have front := (unmarked_listing first (second :: others)).append (')' :: rest)
  have all := (divides_round front.uncommented).trans inside
  simpa [text_tuple, NameTable.tupleText, tokens_several] using all

theorem divisible_array {element : PlainType} (length : Nat) (ih : element.Divisible) :
    Divisible (.array element length) := by
  intro rest ends
  have opening (rest : List Char) (uncommented : rest.head? ≠ some '/') :
      Divides ('[' :: rest) [.opening .square] rest :=
    Divides.opening rfl uncommented
  have semicolon (rest : List Char) :
      Divides (';' :: ' ' :: rest) [.leaf (.mark ';' false)] (' ' :: rest) :=
    Divides.mark (by decide)
  have closing : Divides (']' :: rest) [.closing .square] rest := Divides.closing rfl
  have number : Divides ((toString length).toList ++ ']' :: rest)
      [.leaf (.literal (toString length))] (']' :: rest) :=
    Divides.number (endsName_cons (by decide) _) (toString_ne_empty length)
      (isDigit_of_mem_toString length)
  have behind := (semicolon _).trans ((number.blank (by simp)).trans closing)
  have inside := ih (endsName_cons (c := ';') (by decide)
    (' ' :: ((toString length).toList ++ ']' :: rest)))
  have all := (opening _ (element.unmarked.append _).uncommented).trans (inside.trans behind)
  rw [Lexer.atMark_of_mem (by decide)] at all
  simpa [text_array, tokens_array] using all

/-- The text of every plain type is divided into its tokens. -/
theorem divisible (type : PlainType) : type.Divisible := by
  induction type with
  | applied first others arguments ih =>
      cases arguments with
      | nil => exact divisible_name first others
      | cons argument arguments => exact divisible_applied first others ih
  | tuple elements ih =>
      cases elements with
      | nil => exact divisible_unit
      | cons first others =>
          cases others with
          | nil => exact divisible_single (ih first List.mem_cons_self)
          | cons second others => exact divisible_several ih
  | array element length ih => exact divisible_array length ih

end PlainType

/-! ## Whole texts -/

theorem tokens_of_divides {text : String} {tokens : List Token}
    (whole : Lexer.withoutByteOrderMark text.toList = text.toList)
    (divides : Divides text.toList (flattenAll tokens) []) : Lexer.tokens text = some tokens := by
  have found := divides.lexemes rfl (Nat.lt_succ_self _)
  have grouped := Token.nest_flattenAll [] [] [] tokens
  rw [List.append_nil, List.append_nil] at grouped
  simp only [Lexer.tokens, whole]
  rw [found, Option.bind_some, grouped]
  simp [Lexer.nest]

theorem wholeText_of_consumes {text : String} {tokens : List Token} {phrase : Phrase}
    {reading : Parse.Nested → Parse Phrase} (divided : Lexer.tokens text = some tokens)
    (taken : Parse.Consumes (reading (Parse.nestedFor tokens)) tokens phrase []) :
    Prod.fst <$> Parse.wholeText reading text = .ok phrase := by
  obtain ⟨_, spelled, rfl, read⟩ := taken none []
  rw [Parse.wholeText, divided]
  show Prod.fst <$> Parse.run _ _ = _
  rw [Parse.run, StateT.run, read]
  rfl

/-- The text of a plain type is read as the phrase of the type. -/
theorem PlainType.readType (type : PlainType) : Phrase.readType type.text = .ok type.phrase := by
  have divides := type.divisible endsName_nil
  rw [List.append_nil] at divides
  have divided := tokens_of_divides type.unmarked.withoutByteOrderMark divides
  have enough := Nat.lt_succ_self (Token.sizes (type.tokens false))
  have deep : Token.sizes (type.tokens false) <
      Parse.levelsPerToken * (Token.sizes (type.tokens false) + 1) + 1 := by
    rw [Parse.levelsPerToken]
    omega
  have taken := type.readable .finish enough deep
  rw [List.append_nil] at taken
  exact wholeText_of_consumes divided taken

theorem pathSteps_nil (words : List String) : pathSteps [] words = words.map Phrase.plainStep := by
  induction words with
  | nil => rfl
  | cons first others ih =>
      cases others with
      | nil => rfl
      | cons second others =>
          rw [pathSteps, ih]
          · rfl
          · simp

section Paths

variable {words : List String}

theorem consumes_words (some : words ≠ []) (stepped : ∀ word ∈ words, isStep word)
    {tokens : List Token} (enough : Token.sizes (wordTokens words) ≤ Token.sizes tokens) :
    Parse.Consumes (Parse.steps (Parse.nestedFor tokens) (Parse.nestedFor tokens).steps)
      (wordTokens words) (words.map Phrase.plainStep) [] := by
  have count : words.length ≤ (Parse.nestedFor tokens).steps := by
    rw [Parse.nestedFor, PlainType.nested_steps]
    exact Nat.le_succ_of_le ((PlainType.length_le_sizes_wordTokens words).trans enough)
  have last : ∀ word ∈ words, Parse.Consumes (Parse.step (Parse.nestedFor tokens) false)
      [.word word] (.step word false []) [] := fun word member =>
    Parse.Consumes.plainStep (stepped word member) rfl
  have taken := Parse.Consumes.steps _ some count stepped last rfl
  rwa [List.append_nil, pathSteps_nil] at taken

/-- Names with separators between them are read as a path of them. -/
theorem readPath_join (some : words ≠ [])
    (identifiers : ∀ word ∈ words, isAsciiIdentifier word = true)
    (stepped : ∀ word ∈ words, isStep word) :
    Phrase.readPath (Text.join words) = .ok (.plainPath false words) := by
  have divides := divides_words identifiers endsName_nil
  rw [List.append_nil] at divides
  cases words with
  | nil => exact absurd rfl some
  | cons first others =>
      have front := unmarked_join (identifiers first List.mem_cons_self) others
      have divided := tokens_of_divides front.withoutByteOrderMark divides
      apply wholeText_of_consumes divided
      apply Parse.Consumes.path _ (consumes_words some stepped (Nat.le_refl _))
      cases others <;> rfl

/-- The same names behind a separator are read as a rooted path. -/
theorem readPath_rooted (some : words ≠ [])
    (identifiers : ∀ word ∈ words, isAsciiIdentifier word = true)
    (stepped : ∀ word ∈ words, isStep word) :
    Phrase.readPath (Text.separator ++ Text.join words) = .ok (.plainPath true words) := by
  have divides := divides_words identifiers endsName_nil
  rw [List.append_nil] at divides
  cases words with
  | nil => exact absurd rfl some
  | cons first others =>
      have front := unmarked_join (identifiers first List.mem_cons_self) others
      have all := divides_separator front divides
      rw [← Token.flattenAll_append] at all
      have divided : Lexer.tokens (Text.separator ++ Text.join (first :: others)) =
          Option.some (colons ++ wordTokens (first :: others)) := by
        apply tokens_of_divides
        · rw [String.toList_append]
          rfl
        · rw [String.toList_append]
          exact all
      apply wholeText_of_consumes divided
      exact Parse.Consumes.rootedPath (consumes_words some stepped (by
        rw [Token.sizes_append]
        exact Nat.le_add_left _ _))

end Paths

end RecordDerive.Grammar
