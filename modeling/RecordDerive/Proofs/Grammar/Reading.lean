import RecordDerive.Proofs.Grammar.Consumption
import RecordDerive.Proofs.Grammar.PlainType

/-!
# Reading plain types

The tokens of a plain type are read for its phrase, whatever mark ends them.  A reading
never nests deeper than there are tokens, so neither its levels nor its steps run out.
-/

namespace RecordDerive.Grammar

variable {rest : List Token}

/-! ## What stands in front and behind -/

/-- What may stand behind a type: nothing, or a mark that ends it. -/
inductive Follow : List Token → Prop
  | finish : Follow []
  | mark {c : Char} (ends : c ∈ [',', '>', ';']) (joined : Bool) (rest : List Token) :
      Follow (.mark c joined :: rest)

theorem Follow.atMarks (follow : Follow rest) (operator : String) {first : Char}
    {more : List Char} (spelled : operator.toList = first :: more)
    (other : first ∉ [',', '>', ';']) : atMarks operator rest = false := by
  rw [Grammar.atMarks, spelled]
  cases follow with
  | finish => cases more <;> rfl
  | @mark c ends joined rest =>
      have differs : c ≠ first := fun same => other (same ▸ ends)
      cases more <;> cases joined <;> simp [afterMarks, differs]

theorem Follow.bare (follow : Follow rest) : Parse.atArguments false rest = false := by
  simp [Parse.atArguments, follow.atMarks "<" rfl (by decide),
    follow.atMarks "::" rfl (by decide)]

/-- How a type begins: with a name, or with a group that is no block. -/
inductive Front : List Token → Prop
  | word {text : String} (free : text ∉ keywords) (rest : List Token) : Front (.word text :: rest)
  | group {bracket : Bracket} (closed : bracket ≠ .curly) (inside rest : List Token) :
      Front (.group bracket inside :: rest)

theorem Front.atMarks {tokens : List Token} (front : Front tokens) (operator : String)
    {first : Char} {more : List Char} (spelled : operator.toList = first :: more) :
    atMarks operator tokens = false := by
  rw [Grammar.atMarks, spelled]
  cases front <;> cases more <;> rfl

theorem Front.isEmpty {tokens : List Token} (front : Front tokens) : tokens.isEmpty = false := by
  cases front <;> rfl

theorem Front.atLifetime {tokens : List Token} (front : Front tokens) :
    atLifetime tokens = false := by
  cases front <;> rfl

/-- A word that is no keyword is none of some of them. -/
theorem atWord_eq_false {word : String} (free : word ∉ keywords) (keyword : String)
    (reserved : keyword ∈ keywords) (rest : List Token) :
    atWord keyword (.word word :: rest) = false := by
  rw [atWord, beq_eq_false_iff_ne]
  rintro rfl
  exact free reserved

theorem atOneOf_eq_false {word : String} (free : word ∉ keywords) (special : List String)
    (reserved : ∀ keyword ∈ special, keyword ∈ keywords) (rest : List Token) :
    atOneOf special (.word word :: rest) = false := by
  rw [atOneOf, List.contains_eq_mem, decide_eq_false_iff_not]
  exact fun listed => free (reserved word listed)

theorem Front.atConstant {tokens : List Token} (front : Front tokens) :
    Parse.atConstant tokens = false := by
  cases front with
  | word free rest =>
      have notTrue := atWord_eq_false free "true" (by decide) rest
      have notFalse := atWord_eq_false free "false" (by decide) rest
      rw [atWord] at notTrue notFalse
      rw [Parse.atConstant, atLiteral, notTrue, notFalse]
      rfl
  | group closed inside rest => simp [Parse.atConstant, atLiteral, atGroup, closed]

/-- Whether a word may stand for a step of a path: a name, or one of a few keywords. -/
def isStep (word : String) : Prop := word ∈ Parse.stepKeywords ∨ word ∉ keywords

namespace Parse

variable {nested : Nested}

/-! ## Paths -/

theorem Consumes.plainStep {word : String} (stepped : isStep word)
    (bare : atArguments false rest = false) :
    Consumes (step nested false) (.word word :: rest) (.plainStep word) rest := by
  apply bind ahead
  by_cases special : word ∈ stepKeywords
  · simp only [atOneOf, List.contains_iff_mem.mpr special, if_true]
    exact bind (anyWord word) (pure _)
  · have free : word ∉ keywords := stepped.resolve_left special
    have other : atWord "Self" (.word word :: rest) = false :=
      atWord_eq_false free "Self" (by decide) rest
    have unknown : stepKeywords.contains word = false := by simpa using special
    simp only [atOneOf, unknown, other]
    apply bind (name (by simpa using free))
    apply bind (look _)
    rw [bare]
    exact pure _

theorem Consumes.appliedStep {word : String} (free : word ∉ keywords) {values : List Phrase}
    {before : List Token}
    (applied : Consumes (arguments nested) (.mark '<' false :: before) values rest) :
    Consumes (step nested false) (.word word :: .mark '<' false :: before)
      (.step word false values) rest := by
  apply bind ahead
  have unknown := atOneOf_eq_false free stepKeywords (by decide)
    (.mark '<' false :: before)
  have other := atWord_eq_false free "Self" (by decide) (.mark '<' false :: before)
  simp only [unknown, other]
  apply bind (name (by simpa using free))
  apply bind (look _)
  have follows : atArguments false (.mark '<' false :: before) = true := rfl
  rw [follows]
  apply bind (acceptMarks_absent rfl)
  exact bind applied (pure _)

/-- The steps of a path, of which there are at most a few after the first. -/
def steps (nested : Nested) (count : Nat) : Parse (List Phrase) := do
  let first ← step nested false
  let others ← manyWhile (fun tokens => atMarks "::" tokens && !atGroup .round (tokens.drop 2))
    (requireMarks "::" *> step nested false) count
  return first :: others

theorem path_eq : path nested false = do
    let rooted ← acceptMarks "::"
    return .path rooted (← steps nested nested.steps) := by
  simp [path, moreSteps, steps]

theorem Consumes.steps {words : List String} {values : List Phrase} {before : List Token}
    (count : Nat) (some : words ≠ []) (enough : words.length ≤ count)
    (stepped : ∀ word ∈ words, isStep word)
    (last : ∀ word ∈ words,
      Consumes (step nested false) (.word word :: before) (.step word false values) rest)
    (ended : atMarks "::" rest = false) :
    Consumes (Parse.steps nested count) (wordTokens words ++ before) (pathSteps values words)
      rest := by
  induction words generalizing count with
  | nil => exact absurd rfl some
  | cons word words ih =>
      obtain ⟨count, rfl⟩ := Nat.exists_eq_succ_of_ne_zero (Nat.ne_zero_of_lt enough)
      cases words with
      | nil =>
          apply bind (last word List.mem_cons_self)
          have none : Consumes (manyWhile (fun tokens =>
              atMarks "::" tokens && !atGroup .round (tokens.drop 2))
              (Parse.requireMarks "::" *> step nested false) (count + 1)) rest [] rest := by
            apply bind (look _)
            rw [ended]
            exact pure _
          exact bind none (pure _)
      | cons second others =>
          have later := ih count (List.cons_ne_nil _ _) (Nat.le_of_succ_le_succ enough)
            (fun word member => stepped word (List.mem_cons_of_mem _ member))
            (fun word member => last word (List.mem_cons_of_mem _ member))
          have bare : atArguments false (colons ++ (wordTokens (second :: others) ++ before)) =
              false := by
            cases others <;> rfl
          rw [wordTokens_cons, List.cons_append, List.append_assoc]
          apply bind (plainStep (stepped word List.mem_cons_self) bare)
          refine bind ?_ (pure _)
          apply bind (look _)
          have goes : (atMarks "::" (colons ++ (wordTokens (second :: others) ++ before)) &&
              !atGroup .round ((colons ++ (wordTokens (second :: others) ++ before)).drop 2)) =
              true := by
            cases others <;> rfl
          rw [goes, if_pos rfl, seqRight_eq_bind, bind_assoc]
          exact bind (requireMarks rfl) later

theorem Consumes.path {tokens : List Token} {values : List Phrase}
    (unrooted : atMarks "::" tokens = false)
    (taken : Consumes (Parse.steps nested nested.steps) tokens values rest) :
    Consumes (Parse.path nested false) tokens (.path false values) rest := by
  rw [path_eq]
  apply bind (acceptMarks_absent unrooted)
  exact bind taken (pure _)

theorem Consumes.rootedPath {tokens : List Token} {values : List Phrase}
    (taken : Consumes (Parse.steps nested nested.steps) tokens values rest) :
    Consumes (Parse.path nested false) (colons ++ tokens) (.path true values) rest := by
  rw [path_eq]
  apply bind (acceptMarks rfl)
  exact bind taken (pure _)

/-! ## Types by paths -/

/-- A path that nothing follows but the end of a type is a type. -/
theorem Consumes.pathType {tokens : List Token} {values : List Phrase} (front : Front tokens)
    (follow : Follow rest)
    (taken : Consumes (Parse.path nested false) tokens (.path false values) rest) :
    Consumes (Parse.pathType nested true none) tokens (.path false values) rest := by
  have found : Yields (expandablePath nested false) tokens (·.1 = .path false values) rest := by
    apply bind ahead
    have qualified : Consumes (qualifiedPath nested false) tokens (.path false values) rest := by
      apply bind (acceptMarks_absent (front.atMarks _ rfl))
      exact taken
    apply bind qualified
    apply bind ahead
    exact Yields.pure rfl
  apply Yields.bind found
  rintro ⟨_, isPlain⟩ rfl
  have alone : Consumes (expanded? (.path false values) isPlain) rest none rest := by
    cases isPlain with
    | false => exact pure none
    | true =>
        apply bind (look _)
        have unexpanded : atExpansion rest = false := by
          rw [atExpansion, follow.atMarks "!" rfl (by decide)]
          rfl
        rw [unexpanded]
        exact pure none
  apply bind alone
  apply bind (look _)
  rw [follow.atMarks "+" rfl (by decide)]
  exact pure _

/-- A type that begins with a name is a path. -/
theorem Consumes.typeOfPath {text : String} {tokens : List Token} {values : List Phrase}
    (free : text ∉ keywords) (unmarked : atMarks "#" tokens = false) (follow : Follow rest)
    (taken : Consumes (Parse.path nested false) (.word text :: tokens) (.path false values) rest) :
    Consumes (Parse.type nested true) (.word text :: tokens) (.path false values) rest := by
  apply bind ahead
  have named : atPath (.word text :: tokens) = true := by
    simp [atPath, atNamedPath, atName, free]
  have unquantified := atWord_eq_false free "for" (by decide) tokens
  have noFunction : atFunction (.word text :: tokens) = false :=
    atOneOf_eq_false free _ (by decide) tokens
  have ungrouped : atGroup .round (.word text :: tokens) = false := rfl
  have unbuilt : atBuiltin (.word text :: tokens) = false := by simp [atBuiltin, unmarked]
  simp only [unquantified, ungrouped, noFunction, unbuilt, named, if_true]
  exact pathType (.word free tokens) follow taken

/-! ## Generic arguments -/

/-- A type that a mark ends is an argument by itself. -/
theorem Consumes.argument {tokens : List Token} {type : Phrase} (front : Front tokens)
    (follow : Follow rest) (taken : Consumes (nested.type true) tokens type rest) :
    Consumes (Parse.argument nested) tokens type rest := by
  apply bind ahead
  simp only [front.atLifetime, front.atConstant]
  apply bind taken
  split
  next name arguments =>
    apply bind (acceptMarks_absent (follow.atMarks _ rfl (by decide)))
    apply bind (acceptMarks_absent (follow.atMarks _ rfl (by decide)))
    exact pure _
  next => exact pure _

theorem Consumes.arguments {tokens : List Token} {values : List Phrase} {joined joined' : Bool}
    (listed : Listed (atMarks ">") (Parse.argument nested) tokens values
      (.mark '>' joined' :: rest))
    (enough : values.length < nested.steps) (late : ∀ value ∈ values, value.isLifetime = false) :
    Consumes (Parse.arguments nested) (.mark '<' joined :: tokens) values rest := by
  apply bind (requireMarks rfl)
  apply bind (listed.sorted enough late)
  exact bind (requireMarks rfl) (pure _)

/-! ## Tuples -/

theorem Consumes.emptyTuple :
    Consumes (Parse.type nested true) (.group .round [] :: rest) (.tuple []) rest := by
  apply bind ahead
  have inside : Consumes (insideParentheses nested) [] .unit [] := bind ahead (pure _)
  exact bind (inGroup inside) (pure _)

theorem Consumes.tuple {tokens between : List Token} {first : Phrase} {values : List Phrase}
    {joined : Bool} (front : Front tokens)
    (taken : Consumes (nested.type true) tokens first (.mark ',' joined :: between))
    (listed : Listed List.isEmpty (nested.type true) between values [])
    (enough : values.length < nested.steps) :
    Consumes (Parse.type nested true) (.group .round tokens :: rest) (.tuple (first :: values))
      rest := by
  apply bind ahead
  have inside : Consumes (insideParentheses nested) tokens (.several (first :: values)) [] := by
    apply bind ahead
    simp only [front.isEmpty, front.atLifetime, front.atMarks "?" rfl]
    apply bind taken
    apply bind (acceptMarks rfl)
    exact bind (listed.separated enough) (pure _)
  exact bind (inGroup inside) (pure _)

/-! ## Arrays -/

/-- A literal at the end of a group is all of an expression. -/
theorem Consumes.expressionOfLiteral (text : String) {records : Bool} {count : Nat}
    (counted : nested.steps = count + 1) :
    Consumes (Parse.expression nested records .loose) [.literal text] (.literal text) [] := by
  have undecorated : Consumes (outerDecorations nested) [.literal text] [] [.literal text] := by
    rw [outerDecorations, counted]
    exact bind (look _) (pure _)
  have atomic : Consumes (atom nested records) [.literal text] (.literal text) [] := by
    apply Yields.get_bind
    intro leftOver spelled
    exact bind (literal text) (pure _)
  have alone : Consumes (trailers nested nested.steps (.literal text)) [] (.literal text) [] := by
    rw [counted]
    exact bind ahead (pure _)
  have operand : Consumes (operand nested records) [.literal text] (.literal text) [] := by
    rw [operand, counted]
    apply Yields.get_bind
    intro leftOver spelled
    apply bind undecorated
    apply bind (acceptMarks_absent rfl)
    apply bind ahead
    have unsigned : signs.find? (atMarks · [Token.literal text]) = none := rfl
    rw [unsigned]
    apply bind atomic
    apply bind alone
    exact pure _
  apply bind operand
  rw [counted]
  exact bind ahead (pure _)

theorem Consumes.array {tokens : List Token} {element : Phrase} {text : String}
    (taken : Consumes (nested.type true) tokens element (.mark ';' false :: [.literal text]))
    (length : Consumes nested.anyExpression [.literal text] (.literal text) []) :
    Consumes (Parse.type nested true) (.group .square tokens :: rest)
      (.array element (.literal text)) rest := by
  apply bind ahead
  apply inGroup
  apply bind taken
  apply bind (acceptMarks rfl)
  exact bind length (pure _)

end Parse

/-! ## Sizes -/

namespace Token

@[simp] theorem size_word (text : String) : (word text).size = 1 := rfl

@[simp] theorem size_mark (c : Char) (joined : Bool) : (mark c joined).size = 1 := rfl

@[simp] theorem size_literal (text : String) : (literal text).size = 1 := rfl

@[simp] theorem size_group (bracket : Bracket) (inside : List Token) :
    (group bracket inside).size = sizes inside + 1 := rfl

@[simp] theorem sizes_nil : sizes [] = 0 := rfl

@[simp] theorem sizes_cons (first : Token) (rest : List Token) :
    sizes (first :: rest) = first.size + sizes rest := rfl

@[simp] theorem sizes_append (first second : List Token) :
    sizes (first ++ second) = sizes first + sizes second := by
  induction first with
  | nil => simp
  | cons token rest ih => simp [ih, Nat.add_assoc]

end Token

/-! ## Plain types -/

theorem PlainName.free (name : PlainName) : name.text ∉ keywords := by
  have free := (Bool.and_eq_true_iff.mp name.plain).2
  simpa using free

namespace PlainType

theorem front (type : PlainType) (followed : Bool) (rest : List Token) :
    Front (type.tokens followed ++ rest) := by
  cases type with
  | applied first others arguments =>
      cases others with
      | nil => exact .word first.free _
      | cons second others => exact .word first.free _
  | tuple elements => exact .group (by decide) _ _
  | array element length => exact .group (by decide) _ _

theorem late (type : PlainType) : type.phrase.isLifetime = false := by
  cases type <;> rfl

/-- The tokens of a type are read for its phrase where there are more steps and levels than
tokens. -/
def Readable (type : PlainType) : Prop :=
  ∀ {followed : Bool} {steps levels : Nat} {rest : List Token}, Follow rest →
    Token.sizes (type.tokens followed) < steps → Token.sizes (type.tokens followed) < levels →
      Parse.Consumes ((Parse.nested steps levels).type true) (type.tokens followed ++ rest)
        type.phrase rest

/-- Tokens of types are listed for their phrases by whatever reads each of them as a type. -/
theorem listed (steps levels : Nat) {stop : List Token → Bool} {item : Parse Phrase}
    (going : ∀ tokens, Front tokens → stop tokens = false)
    (unstopped : ∀ joined tokens, stop (.mark ',' joined :: tokens) = false)
    (reads : ∀ {tokens rest phrase}, Front tokens → Follow rest →
      Parse.Consumes ((Parse.nested steps levels).type true) tokens phrase rest →
      Parse.Consumes item tokens phrase rest)
    {rest : List Token} (follow : Follow rest) (stopped : stop rest = true)
    {types : List PlainType} (readable : ∀ type ∈ types, type.Readable) {followed : Bool}
    (enough : Token.sizes (listTokens followed types) < steps)
    (deep : Token.sizes (listTokens followed types) < levels) :
    Parse.Listed stop item (listTokens followed types ++ rest) (phrases types) rest := by
  induction types with
  | nil => exact .nil stopped
  | cons first others ih =>
      cases others with
      | nil =>
          have front := first.front followed rest
          exact .last (going _ front)
            (reads front follow (readable first List.mem_cons_self follow enough deep)) stopped
      | cons second others =>
          obtain ⟨here, later⟩ := List.forall_mem_cons.mp readable
          rw [listTokens_cons, Token.sizes_append, Token.sizes_cons, Token.size_mark]
            at enough deep
          rw [listTokens_cons, List.append_assoc, phrases]
          have front := first.front true
            ((.mark ',' false :: listTokens followed (second :: others)) ++ rest)
          have follow :
              Follow ((.mark ',' false :: listTokens followed (second :: others)) ++ rest) :=
            .mark (by decide) _ _
          have read := reads front follow (here follow (by omega) (by omega))
          exact .cons (going _ front) read (unstopped false _) (ih later (by omega) (by omega))

theorem sizes_pos (type : PlainType) (followed : Bool) :
    0 < Token.sizes (type.tokens followed) := by
  have front := type.front followed []
  rw [List.append_nil] at front
  generalize type.tokens followed = tokens at front
  cases front <;> simp only [Token.sizes_cons, Token.size_word, Token.size_group] <;> omega

theorem length_le_sizes (followed : Bool) (types : List PlainType) :
    types.length ≤ Token.sizes (listTokens followed types) := by
  induction types with
  | nil => exact Nat.zero_le _
  | cons first rest ih =>
      cases rest with
      | nil => exact first.sizes_pos followed
      | cons second others =>
          have some := first.sizes_pos true
          rw [listTokens_cons, List.length_cons, Token.sizes_append, Token.sizes_cons]
          omega

@[simp] theorem length_phrases (types : List PlainType) :
    (phrases types).length = types.length := by
  rw [phrases_eq_map, List.length_map]

theorem late_phrases (types : List PlainType) :
    ∀ phrase ∈ phrases types, phrase.isLifetime = false := by
  rw [phrases_eq_map]
  intro phrase member
  obtain ⟨type, -, rfl⟩ := List.mem_map.mp member
  exact type.late

theorem length_le_sizes_wordTokens (words : List String) :
    words.length ≤ Token.sizes (wordTokens words) := by
  induction words with
  | nil => exact Nat.zero_le _
  | cons first rest ih =>
      cases rest with
      | nil => exact Nat.le_refl 1
      | cons second others =>
          rw [wordTokens_cons, Token.sizes_cons, Token.sizes_append, Token.size_word,
            List.length_cons]
          omega

theorem length_le_sizes_texts (first : PlainName) (others : List PlainName) :
    others.length < Token.sizes (wordTokens (PlainName.texts (first :: others))) := by
  have words := length_le_sizes_wordTokens (PlainName.texts (first :: others))
  rwa [PlainName.texts, List.length_map, List.length_cons, ← PlainName.texts] at words

theorem free_of_mem_texts {names : List PlainName} {word : String}
    (member : word ∈ PlainName.texts names) : word ∉ keywords := by
  obtain ⟨name, -, rfl⟩ := List.mem_map.mp member
  exact name.free

theorem typeOfSteps {nested : Parse.Nested} {first : PlainName} {others : List PlainName}
    {before rest : List Token} {values : List Phrase}
    (follow : Follow rest) (enough : others.length < nested.steps)
    (unmarked : atMarks "#" before = false)
    (last : ∀ word ∈ PlainName.texts (first :: others),
      Parse.Consumes (Parse.step nested false) (.word word :: before) (.step word false values)
        rest) :
    Parse.Consumes (Parse.type nested true)
      (wordTokens (PlainName.texts (first :: others)) ++ before)
      (.path false (pathSteps values (PlainName.texts (first :: others)))) rest := by
  have taken := Parse.Consumes.steps nested.steps (by simp [PlainName.texts])
    (by simpa [PlainName.texts] using Nat.succ_le_of_lt enough)
    (fun word member => .inr (free_of_mem_texts member)) last (follow.atMarks _ rfl (by decide))
  have path := Parse.Consumes.path (by cases others <;> rfl) taken
  cases others with
  | nil => exact Parse.Consumes.typeOfPath first.free unmarked follow path
  | cons second others => exact Parse.Consumes.typeOfPath first.free rfl follow path

@[simp] theorem nested_steps (steps levels : Nat) :
    (Parse.nested steps levels).steps = steps := by
  cases levels <;> rfl

/-- A name alone is read as a path of its own. -/
theorem readable_name (first : PlainName) (others : List PlainName) :
    Readable (.applied first others []) := by
  intro followed steps levels rest follow enough deep
  obtain ⟨levels, rfl⟩ := Nat.exists_eq_succ_of_ne_zero (Nat.ne_zero_of_lt deep)
  have names := length_le_sizes_texts first others
  rw [tokens_name] at enough ⊢
  apply typeOfSteps follow
  · rw [nested_steps]
    omega
  · exact follow.atMarks _ rfl (by decide)
  · intro word member
    exact Parse.Consumes.plainStep (.inr (free_of_mem_texts member)) follow.bare

theorem readable_applied (first : PlainName) (others : List PlainName) {argument : PlainType}
    {arguments : List PlainType} (ih : ∀ type ∈ argument :: arguments, type.Readable) :
    Readable (.applied first others (argument :: arguments)) := by
  intro followed steps levels rest follow enough deep
  obtain ⟨levels, rfl⟩ := Nat.exists_eq_succ_of_ne_zero (Nat.ne_zero_of_lt deep)
  have names := length_le_sizes_texts first others
  have count := length_le_sizes true (argument :: arguments)
  simp only [tokens_applied, Token.sizes_append, Token.sizes_cons, Token.size_mark]
    at enough deep
  have taken : Parse.Listed (atMarks ">") (Parse.argument (Parse.nested steps levels))
      (listTokens true (argument :: arguments) ++ .mark '>' followed :: rest)
      (phrases (argument :: arguments)) (.mark '>' followed :: rest) :=
    listed steps levels (fun tokens front => front.atMarks _ rfl) (fun _ _ => rfl)
      Parse.Consumes.argument (.mark (by decide) followed rest) rfl ih (by omega) (by omega)
  have enough : (phrases (argument :: arguments)).length < (Parse.nested steps levels).steps := by
    rw [nested_steps, length_phrases]
    omega
  simp only [tokens_applied, List.append_assoc, List.cons_append, List.nil_append]
  apply typeOfSteps follow
  · rw [nested_steps]
    omega
  · rfl
  · intro word member
    exact Parse.Consumes.appliedStep (free_of_mem_texts member)
      (Parse.Consumes.arguments taken enough (late_phrases _))

theorem readable_unit : Readable (.tuple []) := by
  intro followed steps levels rest follow enough deep
  obtain ⟨levels, rfl⟩ := Nat.exists_eq_succ_of_ne_zero (Nat.ne_zero_of_lt deep)
  exact Parse.Consumes.emptyTuple

theorem readable_single {only : PlainType} (ih : only.Readable) : Readable (.tuple [only]) := by
  intro followed steps levels rest follow enough deep
  obtain ⟨levels, rfl⟩ := Nat.exists_eq_succ_of_ne_zero (Nat.ne_zero_of_lt deep)
  simp only [tokens_single, Token.sizes_cons, Token.size_group, Token.sizes_append] at enough deep
  have comma : Follow [.mark ',' false] := .mark (by decide) _ _
  rw [tokens_single]
  apply Parse.Consumes.tuple (only.front true _) (ih comma (by omega) (by omega)) (.nil rfl)
  rw [nested_steps]
  exact Nat.zero_lt_of_lt enough

theorem readable_several {first second : PlainType} {others : List PlainType}
    (ih : ∀ type ∈ first :: second :: others, type.Readable) :
    Readable (.tuple (first :: second :: others)) := by
  intro followed steps levels rest follow enough deep
  obtain ⟨levels, rfl⟩ := Nat.exists_eq_succ_of_ne_zero (Nat.ne_zero_of_lt deep)
  obtain ⟨here, later⟩ := List.forall_mem_cons.mp ih
  simp only [tokens_several, listTokens_cons, Token.sizes_cons, Token.size_group, Token.size_mark,
    Token.sizes_append] at enough deep
  have count := length_le_sizes false (second :: others)
  have taken : Parse.Listed List.isEmpty ((Parse.nested steps levels).type true)
      (listTokens false (second :: others) ++ []) (phrases (second :: others)) [] :=
    listed steps levels (fun tokens front => front.isEmpty) (fun _ _ => rfl)
      (fun _ _ taken => taken) .finish rfl later (by omega) (by omega)
  rw [List.append_nil] at taken
  rw [tokens_several, listTokens_cons]
  have comma : Follow (.mark ',' false :: listTokens false (second :: others)) :=
    .mark (by decide) _ _
  apply Parse.Consumes.tuple (first.front true _) (here comma (by omega) (by omega)) taken
  rw [nested_steps, length_phrases]
  omega

theorem readable_array {element : PlainType} (length : Nat) (ih : element.Readable) :
    Readable (.array element length) := by
  intro followed steps levels rest follow enough deep
  simp only [tokens_array, Token.sizes_cons, Token.sizes_nil, Token.size_group, Token.size_mark,
    Token.size_literal, Token.sizes_append] at enough deep
  -- The group is one level, and the length in it is another.
  obtain ⟨levels, rfl⟩ := Nat.exists_eq_succ_of_ne_zero (Nat.ne_zero_of_lt deep)
  obtain ⟨levels, rfl⟩ := Nat.exists_eq_succ_of_ne_zero (by omega : levels ≠ 0)
  obtain ⟨steps, rfl⟩ := Nat.exists_eq_succ_of_ne_zero (Nat.ne_zero_of_lt enough)
  apply Parse.Consumes.array
  · exact ih (.mark (by decide) _ _) (by omega) (by omega)
  · exact Parse.Consumes.expressionOfLiteral _ (nested_steps _ _)

/-- The tokens of every plain type are read for its phrase. -/
theorem readable (type : PlainType) : type.Readable := by
  induction type with
  | applied first others arguments ih =>
      cases arguments with
      | nil => exact readable_name first others
      | cons argument arguments => exact readable_applied first others ih
  | tuple elements ih =>
      cases elements with
      | nil => exact readable_unit
      | cons first others =>
          cases others with
          | nil => exact readable_single (ih first List.mem_cons_self)
          | cons second others => exact readable_several ih
  | array element length ih => exact readable_array length ih

end PlainType

end RecordDerive.Grammar
