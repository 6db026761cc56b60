import ModuleBundler.Script.Parser.Pattern

/-!
# Functions

A function has parameters and a body.  What `await`, `yield`, `return` and `in` mean in it depends
on the function alone, not on what is around it; only an arrow function has its parameters read
where it stands, and leaves `in` as it is.

**Decorators** may stand in front of classes, their members, parameters, and expressions and
statements of any kind.  They belong to the first of the former that takes them up.
-/

namespace ModuleBundler.Script.Parser

/-! ## Decorators -/

/-- A decorator: a mark and an expression. -/
def decorator (g : Grammar) : Parser Node := do
  let begin ← start
  expectMark "@"
  let e ← within (fun s => { s with decorator := true }) (g.read .callee)
  node .other begin [e]

/-- **Read decorators** if there are any.  They wait from now on, in place of those that waited
    before. -/
def readDecorators (g : Grammar) : Parser Unit := do
  if ← atMark "@" then
    let ds ← repeated (do
      if ← atMark "@" then return some (← decorator g)
      else return none) g.bound
    modify fun s => { s with waiting := ds }
  else pure ()

/-- **Take up the decorators** that wait. -/
def takeDecorators : Parser (List Node) :=
  modifyGet fun s => (s.waiting, { s with waiting := [] })

/-! ## Modifiers -/

/-- Modifiers that say who may use a member. -/
def accessWords : List String := ["public", "protected", "private"]

/-- Words that may stand in front of a member of a class or a parameter. -/
def modifierWords : List String :=
  accessWords ++
    ["static", "abstract", "override", "async", "const", "readonly", "declare", "accessor"]

/-- Take a word as a further modifier if what it modifies follows, which must be on its line unless
    the word is `static`.  A second `static` is none. -/
def modifier (follows : Lexeme → Bool) (words : List String) : Parser (Option (List String)) := do
  match ← lexeme with
  | .word name _ =>
      if modifierWords.contains name && !(name == "static" && words.contains name) then
        let next ← peek
        if follows next.lexeme && (!next.newLine || name == "static") then do
          takeKeyword
          return some (words ++ [name])
        else return none
      else return none
  | _ => return none

/-- **Modifiers**, in any order.  None of them is `const`, and one at most says who may use a
    member. -/
def modifiers (bound : Nat) (follows : Lexeme → Bool) : Parser (List String) := do
  let words ← iterated (modifier follows) bound []
  require (!words.contains "const") .badMember
  require (decide ((words.filter accessWords.contains).length ≤ 1)) .badMember
  return words

/-! ## Parameters -/

/-- Tokens that a parameter may begin with behind a modifier. -/
def startsParameter (t : Lexeme) : Bool :=
  t.startsKey || t.isMark "\x7b" || t.isMark "..."

/-- One parameter, with its decorators.  They are taken up behind it, so a function in its default
    comes first. -/
def parameter (g : Grammar) : Parser (Option (List Node)) := do
  if ← atMark ")" then return none
  else if ← atMark "..." then return some [← restPattern g ")"]
  else do
    readDecorators g
    let _ ← modifiers g.bound startsParameter
    let p ← patternWithDefault g
    let ds ← takeDecorators
    if ← atMark ")" then pure () else expectMark ","
    return some (ds ++ [p])

/-- **Parameters** in parentheses. -/
def parameters (g : Grammar) : Parser Node := do
  let begin ← start
  expectMark "("
  let ps ← withInOperator (repeated (parameter g) g.bound)
  expectMark ")"
  node .parameters begin ps.flatten

/-! ## Bodies -/

/-- Statements up to a closing brace, which is not taken. -/
def statements (g : Grammar) : Parser (List Node) :=
  repeated (do
    if ← atMark "\x7d" then return none
    else return some (← g.read (.statement false))) g.bound

/-- The body of a function in braces. -/
def functionBody (g : Grammar) : Parser Node := do
  let begin ← start
  expectMark "\x7b"
  let body ← within (fun s => { s with returns := true }) (statements g)
  expectMark "\x7d"
  node .body begin body

/-- The parameters and the body of a function. -/
def functionRest (g : Grammar) (begin : Nat) (own : Option String) (isAsync generates : Bool) :
    Parser Node :=
  within (fun s => { s with inOperator := true, awaits := isAsync, yields := generates }) do
    let ps ← parameters g
    let body ← functionBody g
    node (.function own) begin [ps, body]

/-- The head of a function: whether it is asynchronous, and whether it generates. -/
def functionHead : Parser (Bool × Bool) := do
  let isAsync ← eatWord "async"
  expectWord "function"
  let generates ← eatMark "*"
  return (isAsync, generates)

/-- Whether a function begins at the current token. -/
def atFunction : Parser Bool := do
  if ← atWord "function" then return true
  else if ← atWord "async" then
    let next ← peek
    return next.lexeme.isWord "function" && !next.newLine
  else return false

/-- The name of a function or class, if there is one. -/
def ownName : Parser (Option String) := do
  if (← lexeme).isVariable then return some (← variableName)
  else return none

/-- A function as an expression. -/
def functionExpression (g : Grammar) : Parser Node := do
  let begin ← start
  let (isAsync, generates) ← functionHead
  let own ← within (fun s => { s with awaits := isAsync, yields := generates }) ownName
  functionRest g begin own isAsync generates

/-- A function as a statement, with whether it is a plain one. -/
def functionDeclaration (g : Grammar) (needsName : Bool) : Parser (Node × Bool) := do
  let begin ← start
  let (isAsync, generates) ← functionHead
  let own ← ownName
  if needsName && own.isNone then unexpected
  let f ← functionRest g begin none isAsync generates
  return (← node (.functionDeclaration own) begin [f], !isAsync && !generates)

/-- The function of a method, from its parameters on. -/
def methodFunction (g : Grammar) (isAsync generates : Bool) : Parser Node := do
  functionRest g (← start) none isAsync generates

/-- The body of an arrow function, behind its arrow. -/
def arrowBody (g : Grammar) (isAsync : Bool) : Parser Node :=
  within (fun s => { s with awaits := isAsync, yields := false }) do
    if ← atMark "\x7b" then functionBody g
    else do
      let begin ← start
      let e ← g.read .assigned
      node .body begin [e]

/-- An arrow with a line break in front of it is refused. -/
def arrow : Parser Unit := do
  require (!(← onNewLine)) .misplacedLineBreak
  expectMark "=>"

end ModuleBundler.Script.Parser
