import ModuleBundler.Script.Lexer
import ModuleBundler.Script.Tree

/-!
# Reading a script token by token

A parser works on a state, which holds the current token and the characters around it, and in a
surrounding, which says what certain words mean where it stands.  It ends with a result or with a
fault, and a fault keeps the state.

**Bounded repetition.**  `Grammar` is what the rules of the language are given: how to read a part
of the script that may hold a part of the same sort again, and a bound for every repetition.  The
rules themselves are therefore plain functions, and the recursion is tied in one place.

**Looking ahead.**  `attempt` goes back to where it began if it fails.  What is kept is the list of
places where an arrow function was tried in vain, so that no place is tried twice, and which
decorators still wait.

**Decorators** wait until a class, a member of a class or a parameter takes them up.  Those that
nothing takes up are dropped, along with what they use.
-/

namespace ModuleBundler.Script

/-- **Where a parser stands.** -/
structure Surrounding where
  /-- Whether `in` is an operator. -/
  inOperator : Bool
  /-- Whether `yield` is a keyword. -/
  yields : Bool
  /-- Whether `await` is a keyword. -/
  awaits : Bool
  /-- Whether a function may return. -/
  returns : Bool
  /-- Whether a bracket ends the expression, as it does behind a decorator. -/
  decorator : Bool

/-- What holds at the top of a script. -/
def Surrounding.top : Surrounding := ⟨true, false, true, false, false⟩

/-- **How far a parser has come.** -/
structure Progress where
  /-- The current token. -/
  token : Token
  /-- The characters from the current token on. -/
  here : List Char
  /-- The characters behind the current token. -/
  rest : List Char
  /-- Where the token before the current one ended. -/
  previousStop : Nat
  /-- Places where no arrow function begins. -/
  noArrow : List Nat
  /-- The decorators that nothing has taken up yet. -/
  waiting : List Node
  /-- A number larger than that of the characters. -/
  bound : Nat

/-- **A parser.** -/
abbrev Parser := ReaderT Surrounding (EStateM Fault Progress)

/-- A part of the script that may hold parts of its own sort. -/
inductive Goal where
  | expression
  | assigned
  | binary (level : Nat)
  | unary
  | callee
  | member
  | pattern
  | statement (alone : Bool)

/-- **What the rules are given**: a reader for every goal, and a bound for repetitions. -/
structure Grammar where
  read : Goal → Parser Node
  bound : Nat

namespace Parser

/-- The current token. -/
def token : Parser Token := do return (← get).token

/-- What the current token is. -/
def lexeme : Parser Lexeme := do return (← get).token.lexeme

/-- Where the current token begins. -/
def start : Parser Nat := do return (← get).token.span.start

/-- The token behind the current one, which stays. -/
def peek : Parser Token := do
  let s ← get
  return (Lexer.next s.bound s.token.span.stop s.rest).token

/-- Fail at the current token. -/
def fail {α : Type} (cause : Cause) : Parser α := do
  throw ⟨cause, ← start⟩

/-- Fail because the current token cannot stand here. -/
def unexpected {α : Type} : Parser α := do
  match ← lexeme with
  | .broken cause => fail cause
  | _ => fail .unexpected

/-- Fail unless a condition holds. -/
def require (condition : Bool) (cause : Cause) : Parser Unit :=
  if condition then pure () else fail cause

/-- Take up a token that was read from the characters. -/
def enter (reading : Lexer.Reading) : Parser Unit :=
  modify fun s =>
    { s with
      token := reading.token, here := reading.here, rest := reading.rest,
      previousStop := s.token.span.stop }

/-- Take the current token. -/
def advance : Parser Unit := do
  let s ← get
  enter (Lexer.next s.bound s.token.span.stop s.rest)

/-- Whether the current token is a punctuator. -/
def atMark (text : String) : Parser Bool := do return (← lexeme).isMark text

/-- Whether the current token is a word. -/
def atWord (name : String) : Parser Bool := do return (← lexeme).isWord name

/-- Take a keyword, which must not be written with escapes. -/
def takeKeyword : Parser Unit := do
  match ← lexeme with
  | .word _ true => fail .escapedKeyword
  | _ => advance

/-- Take a punctuator if it is there. -/
def eatMark (text : String) : Parser Bool := do
  if ← atMark text then do advance; return true
  else return false

/-- Take a keyword if it is there. -/
def eatWord (name : String) : Parser Bool := do
  if ← atWord name then do takeKeyword; return true
  else return false

/-- Take a punctuator, which must be there. -/
def expectMark (text : String) : Parser Unit := do
  if ← atMark text then advance else unexpected

/-- Take a keyword, which must be there. -/
def expectWord (name : String) : Parser Unit := do
  if ← atWord name then takeKeyword else unexpected

/-- Whether a line break comes before the current token. -/
def onNewLine : Parser Bool := do return (← token).newLine

/-- Whether a statement may end in front of the current token. -/
def mayEnd : Parser Bool := do
  let t ← token
  return t.newLine || t.lexeme.isMark ";" || t.lexeme.isMark "\x7d" || t.lexeme == .finish

/-- **The end of a statement**: a semicolon, or a place where one may be left out. -/
def semicolon : Parser Unit := do
  if ← eatMark ";" then pure ()
  else if ← mayEnd then pure ()
  else
    match ← lexeme with
    | .broken cause => fail cause
    | _ => fail .missingSemicolon

/-- A node from a position to the end of the last token that was taken. -/
def node (kind : Kind) (start : Nat) (children : List Node) : Parser Node := do
  return .node kind ⟨start, (← get).previousStop⟩ children

/-- Try a parser, and go back if it fails. -/
def attempt {α : Type} (p : Parser α) : Parser (Option α) := fun surrounding s =>
  match p surrounding s with
  | .ok a s' => .ok (some a) s'
  | .error _ s' => .ok none { s with noArrow := s'.noArrow, waiting := s'.waiting }

/-- What a parser would give here, without moving on; none if it would fail. -/
def ahead {α : Type} (p : Parser α) : Parser (Option α) := fun surrounding s =>
  match p surrounding s with
  | .ok a _ => .ok (some a) s
  | .error _ _ => .ok none s

/-- Repeat a step until it gives nothing. -/
def repeated {α : Type} (step : Parser (Option α)) : Nat → Parser (List α)
  | 0 => fail .tooDeep
  | bound + 1 => do
      match ← step with
      | none => return []
      | some a => return a :: (← repeated step bound)

/-- Change a value by steps until there is nothing more to change. -/
def iterated {α : Type} (step : α → Parser (Option α)) : Nat → α → Parser α
  | 0, _ => fail .tooDeep
  | bound + 1, a => do
      match ← step a with
      | none => return a
      | some next => iterated step bound next

/-- Items with commas between them, at least one. -/
def listed {α : Type} (bound : Nat) (item : Parser α) : Parser (List α) := do
  let first ← item
  let others ← repeated (do
    if ← eatMark "," then return some (← item)
    else return none) bound
  return first :: others

/-- Items up to a closing punctuator, which is not taken, with commas between them and, if that
    is allowed, one at the end. -/
def separated {α : Type} (bound : Nat) (closing : String) (trailing : Bool) (item : Parser α) :
    Parser (List α) := do
  if ← atMark closing then return []
  let first ← item
  let others ← repeated (do
    if ← eatMark "," then
      if trailing && (← atMark closing) then return none
      else return some (← item)
    else return none) bound
  return first :: others

/-- Read in another surrounding. -/
def within {α : Type} (change : Surrounding → Surrounding) (p : Parser α) : Parser α :=
  withReader change p

/-- Read where `in` is an operator. -/
def withInOperator {α : Type} (p : Parser α) : Parser α :=
  within (fun s => { s with inOperator := true }) p

/-- Read where `in` is an operator again and brackets are what they always are. -/
def inBrackets {α : Type} (p : Parser α) : Parser α :=
  within (fun s => { s with inOperator := true, decorator := false }) p

/-! ## Names -/

/-- Refuse a word that is a keyword where it stands. -/
def checkName (name : String) : Parser Unit := do
  let s ← read
  require (!(s.awaits && name == "await")) .reservedName
  require (!(s.yields && name == "yield")) .reservedName

/-- Take the name of a variable. -/
def variableName : Parser String := do
  match ← lexeme with
  | .word name _ =>
      if reservedWords.contains name then unexpected
      else do
        checkName name
        advance
        return name
  | _ => unexpected

/-- A variable that is used. -/
def use : Parser Node := do
  let begin ← start
  let name ← variableName
  node (.use name) begin []

/-- Read where `await` and `yield` are names. -/
def withPlainNames {α : Type} (p : Parser α) : Parser α :=
  within (fun s => { s with awaits := false, yields := false }) p

/-- A variable that is introduced. -/
def binder : Parser Node := do
  let begin ← start
  let name ← variableName
  node (.binder name) begin []

/-- Take any word as a name. -/
def anyName : Parser String := do
  match ← lexeme with
  | .word name _ => advance; return name
  | _ => unexpected

end Parser

end ModuleBundler.Script
