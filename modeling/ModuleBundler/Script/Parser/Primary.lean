import ModuleBundler.Script.Parser.Class

/-!
# Primary expressions

The expressions that others are built from: names, literals, arrays, objects, templates, functions,
classes and anything in parentheses.
-/

namespace ModuleBundler.Script.Parser

/-- An expression with commas, inside brackets of some kind. -/
def inner (g : Grammar) : Parser Node := inBrackets (g.read .expression)

/-! ## Templates -/

/-- Read the current token again as the piece of a template behind a substitution. -/
def templateAgain : Parser Unit :=
  modify fun s =>
    let begin := s.token.span.start
    let piece := Lexer.templatePiece s.bound true (begin + 1) (s.here.drop 1)
    { s with
      token := ⟨piece.value, ⟨begin, piece.position⟩, s.token.newLine⟩, rest := piece.rest }

/-- Take a piece of a template; whether the template goes on with a substitution. -/
def templatePiece (tagged : Bool) : Parser Bool := do
  match ← lexeme with
  | .template closed sound =>
      require (tagged || sound) .badEscape
      advance
      return !closed
  | _ => unexpected

/-- One substitution of a template, along with the piece behind it; whether another one follows.
    Where no brace closes the expression, one more expression is read before it. -/
def substitution (g : Grammar) (tagged : Bool) : Parser (Node × Bool) := do
  let e ← inner g
  if ← atMark "\x7d" then
    templateAgain
    let more ← templatePiece tagged
    return (e, more)
  else return (e, true)

/-- The substitutions of a template. -/
def template (g : Grammar) (tagged : Bool) : Parser (List Node) := do
  let more ← templatePiece tagged
  let found ← iterated (fun (found : Bool × List Node) => do
    if found.1 then
      let (e, more) ← substitution g tagged
      return some (more, found.2 ++ [e])
    else return none) g.bound (more, [])
  return found.2

/-! ## Patterns of characters -/

/-- Read the current token again as a regular expression, and take it. -/
def characterPattern : Parser Unit := do
  let s ← get
  let begin := s.token.span.start
  let piece := Lexer.pattern (begin + 1) (s.here.drop 1)
  match piece.value with
  | some cause => fail cause
  | none =>
      set { s with
        token := ⟨.number, ⟨begin, piece.position⟩, s.token.newLine⟩, rest := piece.rest }
      advance

/-! ## Arrays and objects -/

/-- A spread element. -/
def spread (g : Grammar) : Parser Node := do
  let begin ← start
  expectMark "..."
  let e ← plainAssigned g
  let followed ← atMark ","
  node (.spread followed) begin [e]

/-- An element of an array; a comma takes the place of one that is left out. -/
def arrayElement (g : Grammar) : Parser (Option Node) := do
  let begin ← start
  if ← atMark "]" then return none
  else if ← eatMark "," then return some (← node .hole begin [])
  else do
    let e ← if ← atMark "..." then spread g else g.read .assigned
    if ← atMark "]" then pure () else expectMark ","
    return some e

/-- An array. -/
def array (g : Grammar) : Parser Node := do
  let begin ← start
  expectMark "["
  let elements ← withInOperator (repeated (arrayElement g) g.bound)
  expectMark "]"
  node .array begin elements

/-- A method of an object, from its key on. -/
def objectMethod (g : Grammar) (begin : Nat) (isAsync generates : Bool) : Parser Node := do
  let k ← key g
  let f ← methodFunction g isAsync generates
  node .method begin (k.nodes ++ [f])

/-- A field of an object that is written as a name only, possibly with a value for the case that
    the object turns out to be a target. -/
def shorthandField (g : Grammar) (begin : Nat) : Parser Node := do
  let name ← use
  if ← eatMark "=" then
    let value ← plainAssigned g
    node .halfShorthand begin [name, value]
  else node .shorthand begin [name]

/-- A field or method of an object that begins with its key. -/
def keyedField (g : Grammar) (begin : Nat) : Parser Node := do
  let k ← key g
  if ← eatMark ":" then
    let value ← plainAssigned g
    node .field begin (k.nodes ++ [value])
  else if ← atMark "(" then
    let f ← methodFunction g false false
    node .method begin (k.nodes ++ [f])
  else unexpected

/-- A field of an object. -/
def objectField (g : Grammar) : Parser Node := do
  let begin ← start
  let here ← lexeme
  let next ← peek
  let member := startsMember next.lexeme
  if here.isMark "..." then spread g
  else if (here.isWord "get" || here.isWord "set") && member then do
    takeKeyword
    objectMethod g begin false false
  else if here.isWord "async" && member && !next.newLine then do
    takeKeyword
    let generates ← eatMark "*"
    objectMethod g begin true generates
  else if here.isMark "*" && member then do
    advance
    objectMethod g begin false true
  else if here.isVariable && !next.lexeme.isMark "(" && !next.lexeme.isMark ":" then
    shorthandField g begin
  else keyedField g begin

/-- An object. -/
def object (g : Grammar) : Parser Node := do
  let begin ← start
  expectMark "\x7b"
  let fields ← withInOperator (separated g.bound "\x7d" true (objectField g))
  expectMark "\x7d"
  node .object begin fields

/-! ## Parentheses and the rest -/

/-- An expression in parentheses. -/
def group (g : Grammar) : Parser Node := do
  let begin ← start
  expectMark "("
  if ← atMark ")" then fail .emptyParentheses
  let e ← inner g
  expectMark ")"
  node .group begin [e]

/-- A literal that is a single token. -/
def literal : Parser Node := do
  let begin ← start
  advance
  node .other begin []

/-- Words that are literals. -/
def literalWords : List String := ["this", "null", "true", "false"]

/-- An expression that begins with a word. -/
def wordExpression (g : Grammar) (name : String) : Parser Node := do
  let begin ← start
  if literalWords.contains name then do
    takeKeyword
    node .other begin []
  else if name == "class" then classExpression g
  else if ← atFunction then functionExpression g
  else use

/-- **A primary expression.** -/
def primary (g : Grammar) : Parser Node := do
  let begin ← start
  match ← lexeme with
  | .number => literal
  | .text _ => literal
  | .template _ _ => node .other begin (← template g false)
  | .word name _ => wordExpression g name
  | .mark "(" => group g
  | .mark "[" => array g
  | .mark "\x7b" => object g
  | .mark "/" => do characterPattern; node .other begin []
  | .mark "/=" => do characterPattern; node .other begin []
  | _ => unexpected

end ModuleBundler.Script.Parser
