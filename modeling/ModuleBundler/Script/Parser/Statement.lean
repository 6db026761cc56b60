import ModuleBundler.Script.Parser.Item

/-!
# Statements

A statement that is the body of another one stands alone: it cannot declare anything that would
be seen only inside itself.

**The word `let`** declares variables unless what follows shows that it is a name.

**Labels** are told from expressions by the colon behind them.

**The word `in`** is an operator wherever it is one around a statement, and in some places of
statements in any case.
-/

namespace ModuleBundler.Script.Parser

/-- An expression in parentheses that belongs to a statement. -/
def inParentheses (g : Grammar) : Parser Node := do
  expectMark "("
  let e ← g.read .expression
  expectMark ")"
  return e

/-- The statement that a condition or a loop governs. -/
def bodyStatement (g : Grammar) : Parser Node := g.read (.statement true)

/-- A block. -/
def block (g : Grammar) : Parser Node := do
  let begin ← start
  expectMark "\x7b"
  let body ← statements g
  expectMark "\x7d"
  node .block begin body

/-! ## Conditions and loops -/

/-- A condition and what depends on it. -/
def ifStatement (g : Grammar) : Parser Node := do
  let begin ← start
  expectWord "if"
  let test ← inParentheses g
  let yes ← bodyStatement g
  let no ← if ← eatWord "else" then do pure [← bodyStatement g] else pure []
  node .other begin (test :: yes :: no)

/-- A loop that ends with its condition. -/
def doStatement (g : Grammar) : Parser Node := do
  let begin ← start
  expectWord "do"
  let body ← bodyStatement g
  expectWord "while"
  let test ← inParentheses g
  let _ ← eatMark ";"
  node .other begin [body, test]

/-- A word, an expression in parentheses, and a body. -/
def headedStatement (g : Grammar) : Parser Node := do
  let begin ← start
  takeKeyword
  let e ← inParentheses g
  let body ← bodyStatement g
  node .other begin [e, body]

/-- What a loop is: it keeps what is declared inside it only if its head declares something that is
    not hoisted. -/
def loopKind (head : List Node) : Kind :=
  if head.any fun n => n.kind == .declaration false then .loop else .other

/-- The rest of a loop that counts, from the first semicolon on. -/
def countingLoop (g : Grammar) (begin : Nat) (awaits : Bool) (first : List Node) :
    Parser Node := do
  require (!awaits) .unexpected
  expectMark ";"
  let test ← if ← atMark ";" then pure [] else do pure [← inner g]
  expectMark ";"
  let step ← if ← atMark ")" then pure [] else do pure [← inner g]
  expectMark ")"
  let body ← bodyStatement g
  node (loopKind first) begin (first ++ test ++ step ++ [body])

/-- The rest of a loop over the keys or the elements of something, from `in` or `of` on. -/
def overLoop (g : Grammar) (begin : Nat) (awaits : Bool) (target : Node) : Parser Node := do
  let subject ←
    if ← eatWord "of" then g.read .assigned
    else do
      require (!awaits) .unexpected
      expectWord "in"
      g.read .expression
  expectMark ")"
  let body ← bodyStatement g
  node (loopKind [target]) begin [target, subject, body]

/-- The rest of a loop behind variables that it declares. -/
def declaringLoop (g : Grammar) (begin : Nat) (awaits : Bool) (vs : Variables) :
    Parser Node := do
  if (← atWord "in") || (← atWord "of") then overLoop g begin awaits vs.node
  else countingLoop g begin awaits [vs.node]

/-- The rest of a loop behind disposed variables, which stand for no keys. -/
def disposingLoop (g : Grammar) (begin : Nat) (awaits : Bool) (vs : Variables) :
    Parser Node := do
  require (!(← atWord "in")) .unexpected
  declaringLoop g begin awaits vs

/-- The rest of a loop whose head begins with an expression. -/
def expressionLoop (g : Grammar) (begin : Nat) (awaits : Bool) : Parser Node := do
  let asyncOf := (← lexeme) == .word "async" false && (← peek).lexeme.isWord "of"
  let e ← within (fun s => { s with inOperator := false }) (g.read .expression)
  if (← atWord "in") || (← atWord "of") then
    require (awaits || !asyncOf) .unexpected
    match e.asTarget? with
    | some target => overLoop g begin awaits target
    | none => fail .badTarget
  else countingLoop g begin awaits [e]

/-- Whether the head of a loop declares variables here. -/
def atLoopVariables : Parser Bool := do
  if (← atWord "var") || (← atWord "const") then return true
  else if ← atWord "let" then return letDeclares (← peek).lexeme
  else return false

/-- Whether the head of a loop declares disposed variables here.  Behind `using` alone there must be
    a word that is nothing but a name. -/
def atLoopDisposed : Parser Bool := do
  let next := (← peek).lexeme
  return ((← atWord "await") && next.isWord "using") || ((← atWord "using") && next.isPlainName)

/-- A loop with a head. -/
def forStatement (g : Grammar) : Parser Node := do
  let begin ← start
  expectWord "for"
  let awaits ← atWord "await"
  if awaits then
    require (← read).awaits .unexpected
    takeKeyword
  expectMark "("
  let headOnly (s : Surrounding) : Surrounding := { s with inOperator := false }
  if ← atMark ";" then countingLoop g begin awaits []
  else if ← atLoopVariables then
    declaringLoop g begin awaits (← within headOnly (variableList g (← start)))
  else if ← atLoopDisposed then disposingLoop g begin awaits (← disposed g)
  else expressionLoop g begin awaits

/-! ## Other control -/

/-- A jump to the end or the next round of a loop, or to the end of a labelled statement. -/
def jumpStatement : Parser Node := do
  let begin ← start
  takeKeyword
  if ← mayEnd then pure ()
  else do
    let _ ← variableName
    pure ()
  semicolon
  node .other begin []

/-- A return, which is possible inside functions only. -/
def returnStatement (g : Grammar) : Parser Node := do
  let begin ← start
  require (← read).returns .misplacedReturn
  expectWord "return"
  let value ← if ← mayEnd then pure [] else do pure [← inner g]
  semicolon
  node .other begin value

/-- The statements of a case, up to the next one. -/
def caseBody (g : Grammar) : Parser (List Node) :=
  repeated (do
    if (← atWord "case") || (← atWord "default") || (← atMark "\x7d") then return none
    else return some (← g.read (.statement false))) g.bound

/-- A case of a choice. -/
def switchCase (g : Grammar) : Parser (Option Node) := do
  let begin ← start
  if ← atMark "\x7d" then return none
  else do
    let test ←
      if ← eatWord "default" then pure []
      else do
        expectWord "case"
        pure [← g.read .expression]
    expectMark ":"
    let body ← caseBody g
    return some (← node .other begin (test ++ body))

/-- A choice among cases. -/
def switchStatement (g : Grammar) : Parser Node := do
  let begin ← start
  expectWord "switch"
  let e ← inParentheses g
  let here ← start
  expectMark "\x7b"
  let cases ← repeated (switchCase g) g.bound
  expectMark "\x7d"
  let body ← node .cases here cases
  node .other begin [e, body]

/-- A value that is thrown, on the line of its keyword. -/
def throwStatement (g : Grammar) : Parser Node := do
  let begin ← start
  expectWord "throw"
  require (!(← onNewLine)) .misplacedLineBreak
  let e ← g.read .expression
  semicolon
  node .other begin [e]

/-- What happens with a value that was thrown. -/
def catchClause (g : Grammar) : Parser Node := do
  let begin ← start
  expectWord "catch"
  let parameter ←
    if ← eatMark "(" then do
      let p ← g.read .pattern
      expectMark ")"
      pure [p]
    else pure []
  let body ← block g
  node .catchClause begin (parameter ++ [body])

/-- A block whose end is looked after. -/
def tryStatement (g : Grammar) : Parser Node := do
  let begin ← start
  expectWord "try"
  let body ← block g
  let handler ← if ← atWord "catch" then do pure [← catchClause g] else pure []
  let final ← if ← eatWord "finally" then do pure [← block g] else pure []
  require (!(handler ++ final).isEmpty) .missingHandler
  node .other begin (body :: handler ++ final)

/-! ## Expressions and declarations as statements -/

/-- An expression as a statement, or a label and the statement behind it. -/
def expressionStatement (g : Grammar) : Parser Node := do
  let begin ← start
  let e ← g.read .expression
  if e.useName?.isSome && (← atMark ":") then
    advance
    node .other begin [← bodyStatement g]
  else do
    semicolon
    return e

/-- A declaration of variables as a statement. -/
def variableStatement (g : Grammar) (alone : Bool) : Parser Node := do
  let vs ← variableList g (← start)
  require vs.complete .missingValue
  semicolon
  require (!alone || vs.node.kind == .declaration true) .misplacedDeclaration
  return vs.node

/-- Operators behind which `let` is a name: those that assign, and those that compute. -/
def letOperand (t : Lexeme) : Bool :=
  match t with
  | .mark text =>
      assignmentOperators.contains text || (operatorLevels.drop 3).any (·.contains text)
  | .word name _ => name == "instanceof" || name == "in"
  | _ => false

/-- A statement that begins with `let`. -/
def letStatement (g : Grammar) (alone : Bool) : Parser Node := do
  let next := (← peek).lexeme
  if letOperand next then do
    let e ← g.read .assigned
    semicolon
    return e
  else if next.isMark "." || next.isMark "(" then g.read .expression
  else if (alone && !next.isMark "[") || next.isMark ";" then do
    let e ← use
    semicolon
    return e
  else variableStatement g alone

/-- A function as a statement. -/
def functionStatement (g : Grammar) (alone : Bool) : Parser Node := do
  let (f, plain) ← functionDeclaration g true
  require (!alone || plain) .misplacedDeclaration
  return f

/-- A class as a statement, which must not stand alone behind a condition. -/
def classStatement (g : Grammar) (alone : Bool) : Parser Node := do
  require (!alone) .misplacedDeclaration
  classDeclaration g

/-- A statement that begins with a word. -/
def wordStatement (g : Grammar) (alone : Bool) (name : String) (escaped : Bool) :
    Parser Node := do
  match name with
  | "if" => ifStatement g
  | "do" => doStatement g
  | "while" => headedStatement g
  | "with" => headedStatement g
  | "for" => forStatement g
  | "break" => jumpStatement
  | "continue" => jumpStatement
  | "return" => returnStatement g
  | "switch" => switchStatement g
  | "throw" => throwStatement g
  | "try" => tryStatement g
  | "debugger" => jumpless
  | "class" => classStatement g alone
  | "var" => variableStatement g alone
  | "const" => variableStatement g alone
  | "let" => if escaped then expressionStatement g else letStatement g alone
  | _ =>
      if ← atFunction then functionStatement g alone
      else if ← atDisposed then do
        let vs ← disposed g
        require vs.complete .missingValue
        semicolon
        return vs.node
      else expressionStatement g
where
  /-- A word that is a statement of its own. -/
  jumpless : Parser Node := do
    let begin ← start
    takeKeyword
    semicolon
    node .other begin []

/-- **An item**: an import, an export or a statement, behind decorators that it may have no part
    in. -/
def item (g : Grammar) (alone : Bool) : Parser Item := do
  readDecorators g
  match ← lexeme with
  | .word name escaped =>
      if name == "export" then exportItem g
      else if ← atImport then importItem g
      else return .statement (← wordStatement g alone name escaped)
  | .mark "\x7b" => return .statement (← block g)
  | .mark ";" => do
      let begin ← start
      advance
      return .statement (← node .other begin [])
  | _ => return .statement (← expressionStatement g)

/-- **A statement**; imports and exports inside one are read like those at the top. -/
def statement (g : Grammar) (alone : Bool) : Parser Node := do
  return (← item g alone).toNode

end ModuleBundler.Script.Parser
