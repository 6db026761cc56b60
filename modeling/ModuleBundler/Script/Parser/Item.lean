import ModuleBundler.Script.Item
import ModuleBundler.Script.Parser.Declaration
import ModuleBundler.Text.Exhibited

/-!
# Imports and exports

**Names.**  What another module exports may have any word or text as its name, but half of a
surrogate pair is no text that a name can be.  What a name stands for inside is a variable.

**Halves in texts** are found by their escapes, which are looked for in the value of the text.
Looking at one that is cut off breaks down.
-/

namespace ModuleBundler.Script.Parser

/-! ## Names of exports -/

/-- The characters that the first `count` bytes of a text hold in full, along with the bytes that
    are left over. -/
def charsWithin : Nat → List Char → List Char × Nat
  | count, [] => ([], count)
  | count, c :: rest =>
      if c.utf8Size ≤ count then
        let (chars, left) := charsWithin (count - c.utf8Size) rest
        (c :: chars, left)
      else ([], count)

/-- The first four bytes of a text as characters, or what is wrong with looking at them. -/
def fourBytes (rest : List Char) : Except String (List Char) :=
  let (chars, left) := charsWithin 4 rest
  if left = 0 then .ok chars
  else
    match rest.drop chars.length with
    | [] =>
        .error ("end byte index 4 is out of bounds for string of length " ++ toString (4 - left))
    | c :: _ =>
        .error ("end byte index 4 is not a char boundary; it is inside \x27"
          ++ String.ofList (Text.exhibitedChar c) ++ "\x27 (bytes " ++ toString (4 - left) ++ ".."
          ++ toString (4 - left + c.utf8Size) ++ " of string)")

/-- **Whether a text holds half of a surrogate pair**, as its escape. -/
def holdsHalf : List Char → Except String Bool
  | [] => .ok false
  | ['\\'] => .ok false
  | '\\' :: 'u' :: rest => do
      let digits ← fourBytes rest
      if ((Lexer.hexNumber? digits).map Lexer.isSurrogate).getD false then .ok true
      else holdsHalf rest
  | '\\' :: _ :: rest => holdsHalf rest
  | _ :: rest => holdsHalf rest

/-- A name by which modules speak of an export: any word or text; also whether it is a text. -/
def exportName : Parser (String × Bool) := do
  match ← lexeme with
  | .text value =>
      match holdsHalf value.toList with
      | .error text => fail (.breakdown text)
      | .ok broken =>
          require (!broken) .badExportName
          advance
          return (value, true)
  | _ => do
      let name ← anyName
      return (name, false)

/-- The source of an import or export: a text. -/
def sourceText : Parser String := do
  match ← lexeme with
  | .text value => advance; return value
  | _ => unexpected

/-- The key of something said about an import, and the text behind it; gives the key. -/
def attributeKey : Parser String := do
  let name ←
    match ← lexeme with
    | .text value => do
        advance
        pure value
    | _ => anyName
  expectMark ":"
  let _ ← sourceText
  return name

/-- What is said about how to import a module: keys and texts in braces, each key once. -/
def attributes (g : Grammar) : Parser Unit := do
  let t ← token
  if t.lexeme.isWord "with" || (t.lexeme.isWord "assert" && !t.newLine) then do
    advance
    expectMark "\x7b"
    let names ← separated g.bound "\x7d" true attributeKey
    expectMark "\x7d"
    require (decide names.Nodup) .repeatedAttribute
  else pure ()

/-! ## Imports -/

/-- The whole of a module under a name. -/
def wholeBinding : Parser Binding := do
  expectMark "*"
  expectWord "as"
  return ⟨← variableName, .whole⟩

/-- One of the names in the braces of an import. -/
def namedBinding : Parser Binding := do
  let t ← lexeme
  if (← peek).lexeme.isWord "as" || t matches .text _ then do
    let (imported, _) ← exportName
    expectWord "as"
    return ⟨← variableName, .named imported⟩
  else do
    let name ← variableName
    return ⟨name, .named name⟩

/-- The names in braces of an import. -/
def namedBindings (g : Grammar) : Parser (List Binding) := do
  expectMark "\x7b"
  let bs ← withPlainNames (separated g.bound "\x7d" true namedBinding)
  expectMark "\x7d"
  return bs

/-- The whole of a module or names in braces. -/
def otherBindings (g : Grammar) : Parser (List Binding) := do
  if ← atMark "*" then return [← wholeBinding]
  else if ← atMark "\x7b" then namedBindings g
  else unexpected

/-- What an import brings in, in front of its source. -/
def bindings (g : Grammar) : Parser (List Binding) := do
  if (← lexeme).isVariable then
    let first : Binding := ⟨← variableName, .default⟩
    if ← eatMark "," then return first :: (← otherBindings g)
    else return [first]
  else otherBindings g

/-- Whether an import begins here that is no expression. -/
def atImport : Parser Bool := do
  if ← atWord "import" then
    let next := (← peek).lexeme
    return !next.isMark "." && !next.isMark "("
  else return false

/-- Take the word for the phase in which a module is imported, unless it is itself the name that
    is brought in. -/
def importPhase : Parser Unit := do
  let next := (← peek).lexeme
  if (← atWord "source") && next.isVariable then
    let behind ← ahead do
      advance
      return (← peek).lexeme.isWord "from"
    if behind.getD false then takeKeyword else pure ()
  else if (← atWord "defer") && next.isMark "*" then takeKeyword
  else pure ()

/-- **An import.** -/
def importItem (g : Grammar) : Parser Item := do
  let begin ← start
  expectWord "import"
  importPhase
  let bs ←
    if (← lexeme) matches .text _ then pure []
    else do
      let bs ← bindings g
      expectWord "from"
      pure bs
  let source ← sourceText
  attributes g
  semicolon
  return .importing ⟨begin, (← get).previousStop⟩ source bs

/-! ## Exports -/

/-- A name in the braces of an export; the flag says that the name inside is a text. -/
def exposure : Parser (Exposure × Bool) := do
  let (inside, isText) ← exportName
  let outside ←
    if ← eatWord "as" then do
      let (name, _) ← exportName
      pure name
    else pure inside
  return (⟨inside, outside⟩, isText)

/-- Whether a name in the braces of an export can be a variable. -/
def exposesVariable (e : Exposure × Bool) : Bool :=
  !e.2 && !reservedWords.contains e.1.inside && !restrictedWords.contains e.1.inside

/-- An export of names in braces.  A literal behind `from` is the source. -/
def exportNamed (g : Grammar) (begin : Nat) : Parser Item := do
  expectMark "\x7b"
  let es ← separated g.bound "\x7d" true exposure
  expectMark "\x7d"
  let names := es.map Prod.fst
  if (← eatWord "from") && (← lexeme).isLiteral then
    let source ← sourceText
    attributes g
    semicolon
    return .reexport ⟨begin, (← get).previousStop⟩ source names
  else do
    require (es.all exposesVariable) .badExportName
    semicolon
    return .exportNames ⟨begin, (← get).previousStop⟩ names

/-- An export of everything that another module exports. -/
def exportAll (g : Grammar) (begin : Nat) : Parser Item := do
  expectMark "*"
  let outside ←
    if ← eatWord "as" then do
      let (name, _) ← exportName
      pure (some name)
    else pure none
  expectWord "from"
  let source ← sourceText
  attributes g
  semicolon
  return .reexportAll ⟨begin, (← get).previousStop⟩ source outside

/-- A default export, behind its keyword. -/
def exportDefault (g : Grammar) (begin : Nat) : Parser Item := do
  readDecorators g
  let value ←
    if ← atWord "class" then classDeclaration g
    else if ← atFunction then do
      let (f, _) ← functionDeclaration g false
      pure f
    else do
      let e ← g.read .assigned
      semicolon
      pure e
  return .exportDefault ⟨begin, (← get).previousStop⟩ value

/-- An export of a declaration.  Variables that are exported need no value. -/
def exportDeclared (g : Grammar) (begin : Nat) : Parser Item := do
  let here ← start
  readDecorators g
  let declaration ←
    if ← atWord "class" then classDeclaration g
    else if ← atFunction then do
      let (f, _) ← functionDeclaration g true
      pure f
    else if (← atWord "var") || (← atWord "let") || (← atWord "const") then do
      let vs ← variableList g here
      semicolon
      pure vs.node
    else unexpected
  return .exportDeclaration ⟨begin, (← get).previousStop⟩ declaration

/-- **An export.** -/
def exportItem (g : Grammar) : Parser Item := do
  let begin ← start
  expectWord "export"
  if ← eatWord "default" then exportDefault g begin
  else if ← atMark "*" then exportAll g begin
  else if ← atMark "\x7b" then exportNamed g begin
  else exportDeclared g begin

end ModuleBundler.Script.Parser
