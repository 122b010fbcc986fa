import RecordDerive.Grammar.Signature

/-!
# The grammar of items

An item is told by the keyword after its visibility.  Some forms are accepted
that have no layout; their source is kept as it stands.
-/

namespace RecordDerive.Grammar.Parse

/-- A phrase, or the source since a place for a form without layout. -/
def orSource (kind : Unsupported) (start : Cursor) (found : Option Phrase) : Parse Phrase := do
  match found with
  | some phrase => return phrase
  | none => return .verbatim kind (← sourceSince start)

/-! ## Declarations of use -/

/-- A name that something used is given, if it is given one. -/
def newName : Parse String := do
  let tokens ← ahead
  if atName tokens || atWord "_" tokens then anyWord else refuse ["identifier", "underscore"]

/-- What begins the name of something used. -/
def useStarts : List String :=
  ["identifier", "`self`", "`super`", "`crate`", "`try`", "`*`", "curly braces"]

mutual

/-- What a declaration of use names.  Nothing stands for groups in which names
are rooted; such a group is accepted only where `rooted` says so. -/
def useTree (nested : Nested) (rooted : Bool) : Nat → Parse (Option Phrase)
  | 0 => throw .outOfSteps
  | steps + 1 => do
    let tokens ← ahead
    if atName tokens || atOneOf ["self", "super", "crate", "try"] tokens then
      let name ← anyWord
      if ← acceptMarks "::" then return some (.useStep name (← nested.useTree))
      else if ← acceptWord "as" then return some (.fixed (name ++ " as " ++ (← newName)))
      else return some (.fixed name)
    else if ← acceptMarks "*" then return some (.fixed "*")
    else if atGroup .curly tokens then
      let trees ← inGroup .curly (useTrees nested rooted steps)
      return trees.map .useGroup
    else refuse useStarts

/-- The members of a group, or nothing if some of them are rooted. -/
def useTrees (nested : Nested) (rooted : Bool) : Nat → Parse (Option (List Phrase))
  | 0 => throw .outOfSteps
  | steps + 1 => do
    if ← atEnd then return some []
    let isRooted ← if rooted then acceptMarks "::" else pure false
    let first ← useTree nested (rooted && !isRooted) steps
    let rest ←
      if ← atEnd then pure (some [])
      else
        requireMarks ","
        useTrees nested rooted steps
    match first, rest with
    | some first, some rest => return if isRooted then none else some (first :: rest)
    | _, _ => return none

end

/-- A declaration of use. -/
def useItem (nested : Nested) (start : Cursor) : Parse Phrase := do
  let visible ← visibility nested
  requireWord "use"
  let rooted ← acceptMarks "::"
  let tree ← useTree nested (!rooted) nested.steps
  requireMarks ";"
  orSource .item start
    (tree.map fun tree => .useItem (visible ++ "use " ++ if rooted then "::" else "") tree)

/-! ## Values -/

/-- What may be the name of a constant. -/
def constantName : Parse String := do
  let tokens ← ahead
  if atName tokens || atWord "_" tokens then anyWord else refuse ["identifier", "`_`"]

/-- A constant after what precedes its keyword, where it may lack a value if
`mayBeOpen` says so.  A generic one has no layout. -/
def constantItem (nested : Nested) (kind : Unsupported) (mayBeOpen : Bool) (start : Cursor)
    (lead : String) : Parse Phrase := do
  requireWord "const"
  let name ← constantName
  let generics ← generics nested
  requireMarks ":"
  let type ← nested.type true
  let value ← if ← acceptMarks "=" then some <$> nested.anyExpression else pure none
  let predicates ← whereClause nested
  requireMarks ";"
  let isPlain := generics.isNone && predicates.isNone && (mayBeOpen || value.isSome)
  orSource kind start
    (if isPlain then some (.constantItem (lead ++ "const " ++ name ++ ": ") type value) else none)

/-- A static value. -/
def staticItem (nested : Nested) (start : Cursor) : Parse Phrase := do
  let visible ← visibility nested
  requireWord "static"
  let mutable ← optionalWord "mut"
  let name ← name
  if ← acceptMarks "=" then
    let _ ← nested.anyExpression
    requireMarks ";"
    orSource .item start none
  else
    requireMarks ":"
    let type ← nested.type true
    if ← acceptMarks ";" then orSource .item start none
    else
      requireMarks "="
      let value ← nested.anyExpression
      requireMarks ";"
      return .constantItem (visible ++ "static " ++ mutable ++ name ++ ": ") type (some value)

/-! ## Functions -/

/-- The body of a function. -/
def body (nested : Nested) : Parse Phrase :=
  blockExpression nested .plain none

/-- A function. -/
def functionItem (nested : Nested) (start : Cursor) : Parse Phrase := do
  let visible ← visibility nested
  let found ← signature nested false
  if ← acceptMarks ";" then orSource .item start none
  else return found.item visible (some (← body nested))

/-! ## Types -/

/-- Whether the bounds of an associated type end at the front. -/
def atBoundsEnd (tokens : List Token) : Bool :=
  atWord "where" tokens || atMarks "=" tokens || atMarks ";" tokens

/-- The definition of a type after what precedes its keyword. -/
structure TypeDefinition where
  name : String
  generics : List Phrase
  bounds : Option (List Phrase)
  meaning : Option Phrase
  predicates : List Phrase

/-- A definition of a type, with conditions before its meaning, after it, or
either. -/
def typeDefinition (nested : Nested) (early late : Bool) : Parse TypeDefinition := do
  requireWord "type"
  let name ← name
  let generics ← generics nested
  let bounds ←
    if ← acceptMarks ":" then
      some <$> summedUntil atBoundsEnd nested.itemBound nested.steps
    else pure none
  let before ← if early then whereClause nested else pure none
  let meaning ← if ← acceptMarks "=" then some <$> nested.type true else pure none
  let after ← if late && before.isNone then whereClause nested else pure none
  requireMarks ";"
  return {
    name
    generics := generics.getD []
    bounds
    meaning
    predicates := (before <|> after).getD [] }

/-- The item that a definition makes up. -/
def TypeDefinition.item (definition : TypeDefinition) (form : TypeForm) (lead : String) : Phrase :=
  .typeItem form (lead ++ "type " ++ definition.name) definition.generics
    (definition.bounds.getD []) definition.meaning definition.predicates

/-- A name for a type. -/
def typeItem (nested : Nested) (start : Cursor) : Parse Phrase := do
  let visible ← visibility nested
  let definition ← typeDefinition nested true false
  orSource .item start
    (if definition.meaning.isSome && definition.bounds.isNone then
      some (definition.item .early visible)
    else none)

/-- A structure. -/
def structureItem (nested : Nested) : Parse Phrase := do
  let visible ← visibility nested
  requireWord "struct"
  let lead := visible ++ "struct " ++ (← name)
  let generics := (← generics nested).getD []
  let before ← whereClause nested
  let tokens ← ahead
  if before.isNone && atGroup .round tokens then
    let fields ← positionalFields nested
    let after ← whereClause nested
    if ← look (atMarks ";") then requireMarks ";"
    else refuse (if after.isNone then ["`where`", "`;`"] else ["`;`"])
    return .tupleItem lead generics (some (.tupleFields fields)) (after.getD [])
  else if atGroup .curly tokens then
    return .recordItem lead generics (before.getD []) (← namedFields nested)
  else if atMarks ";" tokens then
    requireMarks ";"
    return .tupleItem lead generics none (before.getD [])
  else
    refuse ((if before.isNone then ["`where`", "parentheses"] else []) ++ ["curly braces", "`;`"])

/-- A variant of an enumeration.  How far it is visible is not kept. -/
def variant (nested : Nested) : Parse Phrase := do
  let decorations ← outerDecorations nested
  let _ ← apart (visibility nested)
  let name ← name
  let tokens ← ahead
  let fields ←
    if atGroup .curly tokens then some <$> (Phrase.recordFields <$> namedFields nested)
    else if atGroup .round tokens then some <$> (Phrase.tupleFields <$> positionalFields nested)
    else pure none
  let value ← if ← acceptMarks "=" then some <$> nested.anyExpression else pure none
  return (Phrase.variant name fields value).decorate decorations

/-- An enumeration. -/
def enumerationItem (nested : Nested) : Parse Phrase := do
  let visible ← visibility nested
  requireWord "enum"
  let lead := visible ++ "enum " ++ (← name)
  let generics := (← generics nested).getD []
  let predicates := (← whereClause nested).getD []
  return .recordItem lead generics predicates
    (← inGroup .curly (separated "," (variant nested) nested.steps))

/-- A union. -/
def unionItem (nested : Nested) : Parse Phrase := do
  let visible ← visibility nested
  requireWord "union"
  let lead := visible ++ "union " ++ (← name)
  let generics := (← generics nested).getD []
  let predicates := (← whereClause nested).getD []
  return .recordItem lead generics predicates (← namedFields nested)

/-! ## Expansions -/

/-- An expansion that stands as an item.  Only curly brackets end it. -/
def expansionItem (nested : Nested) (named : Bool) : Parse Phrase := do
  let (rooted, names) ← plainPath nested.steps
  requireMarks "!"
  let tokens ← ahead
  let name ←
    if named && (atName tokens || atWord "try" tokens) then some <$> anyWord else pure none
  let (bracket, content) ← anyGroup "delimiter"
  unless bracket = .curly do requireMarks ";"
  return .expansionItem (.plainPath rooted names) name bracket content

/-- Whether an expansion may stand at the front among items. -/
def atExpansionItem (tokens : List Token) : Bool :=
  atName tokens || atOneOf ["self", "super", "crate"] tokens || atMarks "::" tokens

/-- What may begin an expansion among items. -/
def expansionStarts : List String :=
  ["identifier", "`self`", "`super`", "`crate`", "`::`"]

/-- A definition of expansions, which is accepted without a layout. -/
def expansionDefinition (nested : Nested) (start : Cursor) : Parse Phrase := do
  let _ ← visibility nested
  requireWord "macro"
  let _ ← name
  let hasInputs ← look (atGroup .round)
  if hasInputs then let _ ← anyGroup (groupName .round)
  if ← look (atGroup .curly) then let _ ← anyGroup (groupName .curly)
  else refuse ((if hasInputs then [] else ["parentheses"]) ++ ["curly braces"])
  orSource .item start none

/-! ## Members of traits and implementations -/

/-- What may begin an item in a trait or implementation. -/
def memberStarts (isPlain : Bool) (starts : List String) : List String :=
  starts ++ if isPlain then expansionStarts else []

/-- An item in a trait. -/
def traitItem (nested : Nested) : Parse Phrase := do
  let start ← get
  let decorations ← outerDecorations nested
  let visible ← visibility nested
  let preset ← optionalWord "default"
  let isPlain := visible.isEmpty && preset.isEmpty
  let tokens ← ahead
  let found ←
    if atSignature false tokens then do
      let found ← signature nested false
      let after ← ahead
      if atGroup .curly after then pure (found.item "" (some (← body nested)))
      else if atMarks ";" after then do
        requireMarks ";"
        pure (found.item "" none)
      else refuse ["curly braces", "`;`"]
    else if atWord "const" tokens then
      if atName (tokens.drop 1) || atWord "_" (tokens.drop 1) then
        constantItem nested .traitItem true start ""
      else do
        requireWord "const"
        refuse ["identifier", "`_`", "`async`", "`unsafe`", "`extern`", "`fn`"]
    else if atWord "type" tokens then do
      pure ((← typeDefinition nested false true).item .late "")
    else if isPlain && atExpansionItem tokens then expansionItem nested false
    else refuse (memberStarts isPlain ["`fn`", "`const`", "`type`"])
  match found with
  | .verbatim .. => return found
  | _ => if isPlain then return found.decorate decorations else orSource .traitItem start none

/-- An item in an implementation. -/
def implItem (nested : Nested) : Parse Phrase := do
  let start ← get
  let decorations ← outerDecorations nested
  let visible ← visibility nested
  let isPreset ← look fun tokens => atWord "default" tokens && !atMarks "!" (tokens.drop 1)
  let preset ← if isPreset then optionalWord "default" else pure ""
  let lead := visible ++ preset
  let tokens ← ahead
  let found ←
    if atSignature false tokens then do
      let found ← signature nested false
      if ← acceptMarks ";" then orSource .implItem start none
      else pure (found.item lead (some (← body nested)))
    else if atWord "const" tokens then constantItem nested .implItem false start lead
    else if atWord "type" tokens then do
      let definition ← typeDefinition nested false true
      orSource .implItem start
        (if definition.meaning.isSome && definition.bounds.isNone then
          some (definition.item .late lead)
        else none)
    else if lead.isEmpty && atExpansionItem tokens then expansionItem nested false
    else
      refuse (memberStarts lead.isEmpty
        ((if isPreset then [] else ["`default`"]) ++ ["`fn`", "`const`", "`type`"]))
  match found with
  | .verbatim .. => return found
  | _ => return found.decorate decorations

/-- An item of a foreign library. -/
def foreignItem (nested : Nested) : Parse Phrase := do
  let start ← get
  let decorations ← outerDecorations nested
  let visible ← visibility nested
  let tokens ← ahead
  let found ←
    if atSignature true tokens then do
      let found ← signature nested true
      let hasBody ← look (atGroup .curly)
      if hasBody then let _ ← body nested else requireMarks ";"
      orSource .foreignItem start
        (if found.safe || hasBody then none else some (found.item visible none))
    else if atWord "static" tokens ||
        (atOneOf ["unsafe", "safe"] tokens && atWord "static" (tokens.drop 1)) then do
      let isMarked := !atWord "static" tokens
      if isMarked then let _ ← anyWord
      requireWord "static"
      let mutable ← optionalWord "mut"
      let name ← name
      requireMarks ":"
      let type ← nested.type true
      let hasValue ← acceptMarks "="
      if hasValue then let _ ← nested.anyExpression
      requireMarks ";"
      orSource .foreignItem start
        (if isMarked || hasValue then none
        else some (.constantItem (visible ++ "static " ++ mutable ++ name ++ ": ") type none))
    else if atWord "type" tokens then do
      let definition ← typeDefinition nested true true
      orSource .foreignItem start
        (if definition.meaning.isNone && definition.bounds.isNone then
          some (definition.item .bare visible)
        else none)
    else if visible.isEmpty && atExpansionItem tokens then expansionItem nested false
    else refuse (memberStarts visible.isEmpty ["`fn`", "`static`", "`type`"])
  match found with
  | .verbatim .. => return found
  | _ => return found.decorate decorations

/-! ## Groups of items -/

/-- Items in curly brackets, after the decorations of the group. -/
def members (nested : Nested) (item : Parse Phrase) : Parse (List Phrase × List Phrase) :=
  inGroup .curly do
    let decorations ← innerDecorations nested
    return (decorations, ← many item nested.steps)

/-- A module. -/
def moduleItem (nested : Nested) : Parse Phrase := do
  let visible ← visibility nested
  let safety ← optionalWord "unsafe"
  requireWord "mod"
  let name ← if ← look (atWord "try") then anyWord else name
  let lead := visible ++ safety ++ "mod " ++ name
  let tokens ← ahead
  if atMarks ";" tokens then
    requireMarks ";"
    return .fixedItem (lead ++ ";")
  else if atGroup .curly tokens then
    let (decorations, items) ← members nested nested.item
    return .groupItem lead [] [] [] decorations items
  else refuse ["`;`", "curly braces"]

/-- The items of a foreign library. -/
def foreignModule (nested : Nested) : Parse Phrase := do
  let safety ← optionalWord "unsafe"
  unless ← look (atWord "extern") do refuse ["`extern`"]
  let linkage ← linkage
  let (decorations, items) ← members nested (foreignItem nested)
  return .groupItem (safety ++ (linkage.dropEnd 1).toString) [] [] [] decorations items

/-- A name for a library. -/
def libraryItem (nested : Nested) : Parse Phrase := do
  let visible ← visibility nested
  requireWord "extern"
  requireWord "crate"
  let found ← if ← look (atWord "self") then anyWord else name
  let given ←
    if ← acceptWord "as" then
      (" as " ++ ·) <$> (if ← look (atWord "_") then anyWord else name)
    else pure ""
  requireMarks ";"
  return .fixedItem (visible ++ "extern crate " ++ found ++ given ++ ";")

/-- Whether the bounds of a trait end at the front. -/
def atTraitEnd (tokens : List Token) : Bool :=
  atWord "where" tokens || atGroup .curly tokens

/-- Whether the bounds that a trait stands for end at the front. -/
def atAliasEnd (tokens : List Token) : Bool :=
  atWord "where" tokens || atMarks ";" tokens

/-- A trait, or a name for bounds. -/
def traitDefinition (nested : Nested) : Parse Phrase := do
  let visible ← visibility nested
  let safety ← optionalWord "unsafe"
  let automatic ← optionalWord "auto"
  requireWord "trait"
  let name ← name
  let generics := (← generics nested).getD []
  let lead := visible ++ safety ++ automatic ++ "trait " ++ name
  let isTrait := !(safety ++ automatic).isEmpty ||
    (← look fun tokens => atTraitEnd tokens || atMarks ":" tokens)
  if isTrait then
    let bounds ←
      if ← acceptMarks ":" then summedUntil atTraitEnd nested.itemBound nested.steps else pure []
    let predicates := (← whereClause nested).getD []
    let (decorations, items) ← members nested (traitItem nested)
    return .groupItem lead generics bounds predicates decorations items
  else if ← acceptMarks "=" then
    let bounds ← summedUntil atAliasEnd nested.itemBound nested.steps
    let predicates := (← whereClause nested).getD []
    requireMarks ";"
    return .boundsItem lead generics bounds predicates
  else refuse ["curly braces", "`:`", "`where`", "`=`"]

/-- Whether an angle bracket opens generic parameters, and not a type. -/
def opensGenerics (tokens : List Token) : Bool :=
  let inside := tokens.drop 1
  let next := afterOne inside
  atMarks "<" tokens &&
    (atMarks ">" inside || atMarks "#" inside ||
      ((atLifetime inside || atName inside) &&
        (atMarks ":" next && !atMarks "::" next || atMarks "," next || atMarks ">" next ||
          atMarks "=" next)) ||
      atWord "const" inside)

/-- An implementation.  One with a visibility, in constant contexts, or of
something that is no path, has no layout. -/
def implementation (nested : Nested) (start : Cursor) : Parse Phrase := do
  let visible ← visibility nested
  let preset ← optionalWord "default"
  let safety ← optionalWord "unsafe"
  requireWord "impl"
  let generics ← if ← look opensGenerics then generics nested else pure none
  let isConstant ← look fun tokens =>
    atWord "const" tokens || (atMarks "?" tokens && atWord "const" (tokens.drop 1))
  if isConstant then
    let _ ← acceptMarks "?"
    requireWord "const"
  let isNegative ← look fun tokens => atMarks "!" tokens && !atGroup .curly (tokens.drop 1)
  if isNegative then requireMarks "!"
  let first ← nested.type true
  let isOrigin ← acceptWord "for"
  if isNegative && !isOrigin then forbid .negativeInherent
  let subject ← if isOrigin then nested.type true else pure first
  let predicates := (← whereClause nested).getD []
  let (decorations, items) ← members nested (implItem nested)
  let isPath := match first with | .path .. => true | _ => false
  let origin := if isNegative then .unary "!" first else first
  orSource .item start
    (if !visible.isEmpty || isConstant || (isOrigin && !isPath) then none
    else some (.implementationItem (preset ++ safety ++ "impl") (generics.getD [])
      (if isOrigin then some origin else none) subject predicates decorations items))

/-! ## Items -/

/-- What may begin an item. -/
def itemStarts : List String :=
  ["`fn`", "`extern`", "`use`", "`static`", "`const`", "`unsafe`", "`mod`", "`type`", "`struct`",
    "`enum`", "`union`", "`trait`", "`auto`", "`impl`", "`default`", "`macro`"]

/-- An item behind the keyword for what is foreign. -/
def foreignStart (nested : Nested) (afterVisibility : List Token) : Parse Phrase := do
  let next := afterVisibility.drop 1
  if atWord "crate" next then libraryItem nested
  else if atGroup .curly next then foreignModule nested
  else if atText next then
    if atGroup .curly (next.drop 1) then foreignModule nested
    else
      advance (next.drop 1) []
      refuse ["curly braces"]
  else
    advance next []
    refuse ["`crate`", "curly braces", "string literal"]

/-- An item behind the keyword for what is not checked. -/
def uncheckedStart (nested : Nested) (start : Cursor) (afterVisibility : List Token) :
    Parse Phrase := do
  let next := afterVisibility.drop 1
  if atWord "trait" next || (atWord "auto" next && atWord "trait" (next.drop 1)) then
    traitDefinition nested
  else if atWord "impl" next then implementation nested start
  else if atWord "extern" next then foreignModule nested
  else if atWord "mod" next then moduleItem nested
  else
    advance next []
    refuse ["`trait`", "`auto`", "`impl`", "`extern`", "`mod`"]

/-- An item. -/
def item (nested : Nested) : Parse Phrase := do
  let start ← get
  let decorations ← outerDecorations nested
  let first ← get
  let visible ← visibility nested
  let tokens ← ahead
  set first
  let next := tokens.drop 1
  let found ←
    if atSignature false tokens then functionItem nested start
    else if atWord "extern" tokens then foreignStart nested tokens
    else if atWord "use" tokens then useItem nested start
    else if atWord "static" tokens then staticItem nested start
    else if atWord "const" tokens then do
      constantItem nested .item false start (← visibility nested)
    else if atWord "unsafe" tokens then uncheckedStart nested start tokens
    else if atWord "mod" tokens then moduleItem nested
    else if atWord "type" tokens then typeItem nested start
    else if atWord "struct" tokens then structureItem nested
    else if atWord "enum" tokens then enumerationItem nested
    else if atWord "union" tokens && atName next then unionItem nested
    else if atWord "trait" tokens || (atWord "auto" tokens && atWord "trait" next) then
      traitDefinition nested
    else if atWord "impl" tokens || (atWord "default" tokens && !atMarks "!" next) then
      implementation nested start
    else if atWord "macro" tokens then expansionDefinition nested start
    else if visible.isEmpty && atExpansionItem tokens then expansionItem nested true
    else do
      let _ ← visibility nested
      refuse (memberStarts visible.isEmpty itemStarts)
  match found with
  | .verbatim .. => return found
  | _ => return found.decorate decorations

end RecordDerive.Grammar.Parse
