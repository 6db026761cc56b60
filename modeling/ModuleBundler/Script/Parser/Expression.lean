import ModuleBundler.Script.Parser.Primary

/-!
# Expressions

From the inside out: what is accessed and called, unary and binary operators, arrow functions,
conditions, assignments and sequences.

**Chains.**  An access behind `?.` belongs to a chain, which reaches as far as accesses and calls
follow.  A chain as a whole is no target, and no template may follow inside it.

**Binary operators** have levels; an operator takes operands of higher levels, and of its own on
the side from which it does not group.

**Arrow functions** begin like expressions in parentheses.  The tokens that follow may already tell
which of the two it is.  Where they do not, parameters are tried first; if that fails, the
parentheses are read again as an expression.
-/

namespace ModuleBundler.Script.Parser

/-! ## Accesses and calls -/

/-- Behind a point, the name of a property. -/
def propertyName : Parser Unit := do
  match ← lexeme with
  | .privateName _ => advance
  | _ => do
      let _ ← anyName
      pure ()

/-- A computed key in brackets. -/
def computedKey (g : Grammar) : Parser Node := do
  expectMark "["
  let e ← inner g
  expectMark "]"
  return e

/-- One access or template behind an expression that begins at a position.  The flag says whether
    the expression is part of a chain. -/
def accessStep (g : Grammar) (begin : Nat) (found : Node × Bool) :
    Parser (Option (Node × Bool)) := do
  let computedAllowed := !(← read).decorator
  match ← lexeme with
  | .mark "." =>
      advance
      propertyName
      return some (← node .member begin [found.1], found.2)
  | .mark "?." => do
      let next ← peek
      if next.lexeme.isMark "[" && computedAllowed then do
        advance
        let k ← computedKey g
        return some (← node .member begin [found.1, k], true)
      else if next.lexeme.name?.isSome || next.lexeme matches .privateName _ then do
        advance
        propertyName
        return some (← node .member begin [found.1], true)
      else return none
  | .mark "[" =>
      if computedAllowed then do
        let k ← computedKey g
        return some (← node .member begin [found.1, k], found.2)
      else return none
  | .template _ _ => do
      require (!found.2) .badOptionalChain
      let es ← template g true
      return some (← node .tagged begin (found.1 :: es), found.2)
  | _ => return none

/-- All accesses and templates that follow an expression. -/
def accesses (g : Grammar) (begin : Nat) (found : Node × Bool) : Parser (Node × Bool) :=
  iterated (accessStep g begin) g.bound found

/-- An argument of a call. -/
def argument (g : Grammar) : Parser Node := do
  if ← atMark "..." then spread g else g.read .assigned

/-- The arguments of a call. -/
def arguments (g : Grammar) : Parser (List Node) := do
  expectMark "("
  let es ← inBrackets (separated g.bound ")" true (argument g))
  expectMark ")"
  return es

/-- A call behind an expression, along with the accesses that follow it. -/
def callStep (g : Grammar) (begin : Nat) (found : Node × Bool) :
    Parser (Option (Node × Bool)) := do
  let optional ← eatMark "?."
  if ← atMark "(" then
    let es ← arguments g
    let call ← node .call begin (found.1 :: es)
    return some (← accesses g begin (call, found.2 || optional))
  else if optional then unexpected
  else return none

/-- A call that loads a module, behind the words it begins with. -/
def loadingCall (g : Grammar) (begin : Nat) : Parser Node := do
  expectMark "("
  let es ← withInOperator do
    let first ← g.read .assigned
    if (← eatMark ",") && !(← atMark ")") then
      let second ← g.read .assigned
      let _ ← eatMark ","
      return [first, second]
    else return [first]
  expectMark ")"
  node .loading begin es

/-- `import` as an expression: a call that loads a module, possibly in a phase of its own, or what
    a module knows about itself. -/
def importExpression (g : Grammar) : Parser Node := do
  let begin ← start
  expectWord "import"
  if ← eatMark "." then
    if (← eatWord "source") || (← eatWord "defer") then loadingCall g begin
    else do
      expectWord "meta"
      node .other begin []
  else loadingCall g begin

/-- `super`, which must be accessed or called. -/
def superExpression : Parser Node := do
  let begin ← start
  expectWord "super"
  let t ← lexeme
  require (t.isMark "." || t.isMark "[" || t.isMark "(") .unexpected
  node .other begin []

/-- A new object, or the function that is being called to make one.  What is made is no part of a
    chain and does not load a module. -/
def newExpression (g : Grammar) : Parser Node := do
  let begin ← start
  expectWord "new"
  if ← eatMark "." then
    expectWord "target"
    node .other begin []
  else do
    let made ← g.read .member
    require (made.kind != .loading) .unexpected
    require (!(← atMark "?.")) .badOptionalChain
    let es ← if ← atMark "(" then arguments g else pure []
    node .other begin (made :: es)

/-- What accesses begin with, behind decorators that it has no part in. -/
def accessed (g : Grammar) : Parser Node := do
  readDecorators g
  if ← atWord "new" then newExpression g
  else if ← atWord "import" then importExpression g
  else if ← atWord "super" then superExpression
  else primary g

/-- An expression with accesses, and without calls of its own; a chain has no place here. -/
def memberExpression (g : Grammar) : Parser Node := do
  let begin ← start
  let e ← accessed g
  let (e, chained) ← accesses g begin (e, false)
  require (!chained) .badOptionalChain
  return e

/-- **An expression with accesses and calls.** -/
def callee (g : Grammar) : Parser Node := do
  let begin ← start
  let e ← accessed g
  let found ← accesses g begin (e, false)
  let (e, chained) ← iterated (callStep g begin) g.bound found
  if chained then node .other begin [e] else return e

/-! ## Operators -/

/-- Operators in front of an operand. -/
def isUnaryOperator : Lexeme → Bool
  | .mark t => ["+", "-", "~", "!"].contains t
  | .word name _ => ["delete", "typeof", "void"].contains name
  | _ => false

/-- Operators that count a variable up or down. -/
def isCountOperator : Lexeme → Bool
  | .mark t => t == "++" || t == "--"
  | _ => false

/-- A simple target, or a fault. -/
def simpleTarget (e : Node) : Parser Node :=
  match e.asSimpleTarget? with
  | some t => pure t
  | none => fail .badTarget

/-- Whether a token on the line of `await` or `yield` shows that this is an operator: a literal or a
    word that is no operator itself. -/
def showsOperator (t : Token) : Bool :=
  !t.newLine && !t.lexeme.isWord "in" && !t.lexeme.isWord "instanceof"
    && (t.lexeme.isLiteral || t.lexeme.name?.isSome)

/-- Whether `await` is an operator at the current token.  It cannot be one where it is a name. -/
def atAwait : Parser Bool := do
  if ← atWord "await" then
    let next ← peek
    if next.lexeme.isMark "=>" then return false
    else if (← read).awaits then return true
    else do
      require (next.lexeme.isWord "of" || !showsOperator next) .reservedName
      return false
  else return false

/-- **An operand of binary operators.** -/
def unary (g : Grammar) : Parser Node := do
  let begin ← start
  let t ← lexeme
  if isUnaryOperator t then
    takeKeyword
    node .other begin [← g.read .unary]
  else if ← atAwait then do
    takeKeyword
    node .other begin [← g.read .unary]
  else if isCountOperator t then do
    advance
    node .other begin [← simpleTarget (← g.read .unary)]
  else do
    let e ← callee g
    if isCountOperator (← lexeme) && !(← onNewLine) then
      let target ← simpleTarget e
      advance
      node .other begin [target]
    else return e

/-- The levels of binary operators. -/
def operatorLevels : List (List String) :=
  [["??"], ["||"], ["&&"], ["|"], ["^"], ["&"], ["==", "!=", "===", "!=="],
   ["<", ">", "<=", ">=", "instanceof", "in"], ["<<", ">>", ">>>"], ["+", "-"], ["*", "/", "%"],
   ["**"]]

/-- The level of a binary operator. -/
def operatorLevel? (inOperator : Bool) (t : Lexeme) : Option Nat :=
  match t with
  | .mark text => operatorLevels.findIdx? (·.contains text)
  | .word name _ =>
      if name == "instanceof" || (name == "in" && inOperator) then
        operatorLevels.findIdx? (·.contains name)
      else none
  | _ => none

/-- An operator of at least a level, and its right operand. -/
def binaryStep (g : Grammar) (begin level : Nat) (e : Node) : Parser (Option Node) := do
  let t ← lexeme
  match operatorLevel? (← read).inOperator t with
  | some found =>
      if level ≤ found then do
        takeKeyword
        let right ← g.read (.binary (if t.isMark "**" then found else found + 1))
        return some (← node .other begin [e, right])
      else return none
  | none => return none

/-- A private name in front of `in`. -/
def privateTest (g : Grammar) : Parser Node := do
  let begin ← start
  advance
  expectWord "in"
  node .other begin [← g.read .unary]

/-- **Binary operators** of at least a level. -/
def binary (g : Grammar) (level : Nat) : Parser Node := do
  let begin ← start
  let first ←
    if (← read).inOperator && ((← lexeme) matches .privateName _) then privateTest g
    else unary g
  iterated (binaryStep g begin level) g.bound first

/-! ## Arrow functions -/

/-- The parameters of an arrow function, up to and with its arrow; also whether it is
    asynchronous. -/
def arrowHead (g : Grammar) : Parser (Node × Bool) := do
  let isAsync ← eatWord "async"
  let ps ← within (fun s => { s with awaits := s.awaits || isAsync }) (parameters g)
  arrow
  return (ps, isAsync)

/-- An asynchronous arrow function with one plain parameter, up to and with its arrow. -/
def plainAsyncHead : Parser Node := do
  expectWord "async"
  require (!(← onNewLine)) .misplacedLineBreak
  let begin ← start
  let b ← binder
  let ps ← node .parameters begin [b]
  arrow
  return ps

/-- An arrow function behind its arrow. -/
def arrowRest (g : Grammar) (begin : Nat) (ps : Node) (isAsync : Bool) : Parser Node := do
  let body ← arrowBody g isAsync
  node (.function none) begin [ps, body]

/-- What is known about parentheses before they are read. -/
inductive Guess where
  /-- They are no parameters. -/
  | never
  /-- They may be parameters. -/
  | possible
  /-- They are parameters, and nothing else is tried. -/
  | certain
deriving DecidableEq, Repr

/-- Words that never begin an expression in parentheses if a name follows. -/
def leadingWords : List String :=
  ["abstract", "accessor", "const", "declare", "in", "out", "override", "private", "protected",
   "public", "readonly", "static"]

/-- Whether a token is one of some punctuators. -/
def isOneOf (marks : List String) (t : Lexeme) : Bool := marks.any t.isMark

/-- What the first token inside parentheses and those behind it tell about them, from that token
    on. -/
def guessInside : Parser Guess := do
  let first ← lexeme
  let second := (← peek).lexeme
  if first.isMark ")" then
    return if isOneOf ["=>", ":", "\x7b"] second then .certain else .never
  else if isOneOf ["[", "\x7b"] first then return .possible
  else if first.isMark "..." then
    return if second.isPlainName then .certain else if second.isLiteral then .never else .possible
  else if leadingWords.any first.isWord && second.isFreeName then
    return if second.isWord "as" then .never else .certain
  else if !first.isFreeName && !first.isWord "this" then return .never
  else if second.isMark ":" then return .certain
  else if second.isMark "?" then do
    advance
    return if isOneOf [":", ",", "=", ")"] (← peek).lexeme then .certain else .never
  else return if isOneOf [",", "=", ")"] second then .possible else .never

/-- **Whether parameters in parentheses begin here**, as far as a few tokens show. -/
def guessParameters : Parser Guess := do
  if ← atMark "(" then
    return (← ahead do advance; guessInside).getD .never
  else if ← atWord "async" then
    let next ← peek
    if next.lexeme.isMark "(" && !next.newLine then
      return (← ahead do advance; advance; guessInside).getD .never
    else return .never
  else return .never

/-- Whether an asynchronous arrow function with one plain parameter begins here. -/
def atPlainAsync : Parser Bool := do
  let next ← peek
  if (← atWord "async") && next.lexeme.isVariable && !next.newLine then
    let behind ← ahead do
      advance
      return (← peek).lexeme.isMark "=>"
    return behind.getD false
  else return false

/-- An arrow function whose parameters stand in parentheses, if they turn out to be parameters. -/
def possibleArrow (g : Grammar) : Parser (Option Node) := do
  let begin ← start
  if (← get).noArrow.contains begin then return none
  else
    match ← attempt (arrowHead g) with
    | some (ps, isAsync) => return some (← arrowRest g begin ps isAsync)
    | none =>
        modify fun s => { s with noArrow := begin :: s.noArrow }
        return none

/-- An arrow function that begins at the current token, if there is one. -/
def arrowFunction (g : Grammar) : Parser (Option Node) := do
  let begin ← start
  match ← guessParameters with
  | .certain =>
      let (ps, isAsync) ← arrowHead g
      return some (← arrowRest g begin ps isAsync)
  | .possible => possibleArrow g
  | .never =>
      if ← atPlainAsync then
        let ps ← plainAsyncHead
        return some (← arrowRest g begin ps true)
      else return none

/-! ## Assignments and sequences -/

/-- Tokens in front of which `yield` gives nothing. -/
def endsYield (t : Lexeme) : Bool :=
  t == .finish || isOneOf [";", "\x7d", "]", ")", ":", ","] t

/-- Whether `yield` is an operator at the current token.  It cannot be one where it is a name. -/
def atYield : Parser Bool := do
  if ← atWord "yield" then
    let next ← peek
    if next.lexeme.isMark "=>" then return false
    else if (← read).yields then return true
    else do
      require (!showsOperator next) .reservedName
      return false
  else return false

/-- `yield` and what it gives. -/
def yieldExpression (g : Grammar) : Parser Node := do
  let begin ← start
  takeKeyword
  if ← onNewLine then node .other begin []
  else do
    let delegates ← eatMark "*"
    if delegates || !endsYield (← lexeme) then node .other begin [← g.read .assigned]
    else node .other begin []

/-- The operators of assignments. -/
def assignmentOperators : List String :=
  ["=", "+=", "-=", "*=", "/=", "%=", "**=", "<<=", ">>=", ">>>=", "&=", "|=", "^=", "&&=", "||=",
   "??="]

/-- An assignment to an expression that was read; every operator takes every target. -/
def assignment (g : Grammar) (begin : Nat) (left : Node) : Parser Node := do
  match left.asTarget? with
  | none => fail .badTarget
  | some target =>
      advance
      let value ← g.read .assigned
      node .assignment begin [target, value]

/-- What follows behind a condition. -/
def conditional (g : Grammar) (begin : Nat) (test : Node) : Parser Node := do
  if ← eatMark "?" then
    let yes ← plainAssigned g
    expectMark ":"
    let no ← g.read .assigned
    node .other begin [test, yes, no]
  else return test

/-- **An expression without commas.** -/
def assigned (g : Grammar) : Parser Node := do
  let begin ← start
  if ← atYield then yieldExpression g
  else
    match ← arrowFunction g with
    | some f => return f
    | none => do
        let left ← g.read (.binary 0)
        let t ← lexeme
        match left.useName?, t with
        | some name, .mark "=>" => do
            let ps := Node.node .parameters left.span [.node (.binder name) left.span []]
            arrow
            arrowRest g begin ps false
        | _, .mark text =>
            if assignmentOperators.contains text then assignment g begin left
            else conditional g begin left
        | _, _ => return left

/-- **An expression.** -/
def expression (g : Grammar) : Parser Node :=
  within (fun s => { s with decorator := false }) do
    let begin ← start
    let first ← g.read .assigned
    if ← atMark "," then
      let others ← repeated (do
        if ← eatMark "," then return some (← g.read .assigned)
        else return none) g.bound
      node .other begin (first :: others)
    else return first

end ModuleBundler.Script.Parser
