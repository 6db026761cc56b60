import ModuleBundler.Script.Parser.Function

/-!
# Classes

A class has a name, a parent and members, each of which may be left out.  Words such as `async`
are modifiers if what they modify follows on their line; `static`, `get` and `set` are modifiers if
a key follows anywhere; all of them are names otherwise.  Behind other modifiers, `static` and
`async` may each stand once more.

**Heads.**  Of several parents the first one counts, and the others are read in vain.  The names of
interfaces may follow.

**Fields.**  The value of a field is read as if it stood where the class does, so `await` and
`yield` mean there what they mean around the class.
-/

namespace ModuleBundler.Script.Parser

/-! ## Members -/

/-- The key of a class member, which may be a private name if nothing says who may use the member.
    One mark of a type may follow it; the flag says that it is a question mark. -/
def memberKey (g : Grammar) (words : List String) : Parser (Key × Bool) := do
  let k ←
    match ← lexeme with
    | .privateName name => do
        advance
        pure ⟨none, some name, true⟩
    | _ => key g
  let optional ← eatMark "?"
  let definite ← eatMark "!"
  require (!(optional && definite)) .badMember
  require (!(k.secret && words.any accessWords.contains)) .badMember
  return (k, optional)

/-- What is known about a method before its key. -/
structure MethodKind where
  isStatic : Bool
  isAsync : Bool
  generates : Bool
  /-- Whether it is a getter or a setter. -/
  accesses : Bool

/-- Whether a method is neither asynchronous nor a generator, getter or setter. -/
def MethodKind.plain (m : MethodKind) : Bool :=
  !m.isAsync && !m.generates && !m.accesses

/-- Whether a key is spelled out as a name. -/
def Key.spells (k : Key) (name : String) : Bool :=
  k.computed.isNone && k.name == some name

/-- Members that a class can have.  A constructor is a plain method, nothing static is called
    `prototype`, and no private name is `constructor`. -/
def memberAllowed (m : MethodKind) (k : Key) (isMethod : Bool) : Bool :=
  if k.secret then !k.spells "constructor"
  else if m.isStatic && k.spells "prototype" then false
  else if isMethod then m.isStatic || m.plain || !k.spells "constructor"
  else !k.spells "constructor"

/-- Tokens that a member may begin with behind a modifier. -/
def startsMember (t : Lexeme) : Bool := t.startsKey || t.isMark "*"

/-- Take a word once more, behind the modifiers of a member, if what it modifies follows. -/
def lateModifier (word : String) (sameLine : Bool) : Parser Bool := do
  let next ← peek
  if (← atWord word) && startsMember next.lexeme && !(sameLine && next.newLine) then do
    takeKeyword
    return true
  else return false

/-- Take `get` or `set` if a key follows. -/
def accessorWord : Parser Bool := do
  if ((← atWord "get") || (← atWord "set")) && (← peek).lexeme.startsKey then do
    takeKeyword
    return true
  else return false

/-- What stands behind an equals sign, if there is one. -/
def optionalValue (g : Grammar) (goal : Goal) : Parser (List Node) := do
  if ← eatMark "=" then return [← g.read goal]
  else return []

/-- A block of statements that run when the class is made. -/
def staticBlock (g : Grammar) (begin : Nat) : Parser Node := do
  takeKeyword
  expectMark "\x7b"
  let body ← within (fun s => { s with awaits := true, yields := false, returns := false })
    (statements g)
  expectMark "\x7d"
  node .staticBlock begin body

/-- Modifiers that a field with accessors of its own may have. -/
def automaticWords : List String := accessWords ++ ["accessor", "static", "abstract", "override"]

/-- A field that is accessed by a getter and a setter of its own, from its key on.  It cannot be
    left out. -/
def automaticField (g : Grammar) (begin : Nat) (words : List String) : Parser Node := do
  let (k, optional) ← memberKey g words
  require (!optional && words.all automaticWords.contains) .badMember
  require (!(k.secret && k.spells "constructor")) .badMember
  let value ← optionalValue g .assigned
  semicolon
  let ds ← takeDecorators
  node .field begin (ds ++ k.nodes ++ value)

/-- A method or a plain field, from its key on. -/
def methodOrField (g : Grammar) (begin : Nat) (words : List String) (m : MethodKind) :
    Parser Node := do
  let (k, _) ← memberKey g words
  let isMethod := (← atMark "(") || m.isAsync || m.generates
  require (memberAllowed m k isMethod) .badMember
  let ds ← takeDecorators
  if isMethod then do
    let f ← methodFunction g m.isAsync m.generates
    node .method begin (ds ++ k.nodes ++ [f])
  else if m.accesses then unexpected
  else do
    let value ← optionalValue g .expression
    semicolon
    node .field begin (ds ++ k.nodes ++ value)

/-- **A member of a class**, with its decorators. -/
def member (g : Grammar) : Parser (Option Node) := do
  let begin ← start
  if ← atMark "\x7d" then return none
  else if ← eatMark ";" then return some (← node .other begin [])
  else do
    readDecorators g
    let words ← modifiers g.bound startsMember
    if (← atWord "static") && (← peek).lexeme.isMark "\x7b" then
      return some (← staticBlock g begin)
    else do
      let lateStatic ← lateModifier "static" false
      let isStatic := lateStatic || words.contains "static"
      let lateAsync ← lateModifier "async" true
      let isAsync := lateAsync || words.contains "async"
      let generates ← eatMark "*"
      let accesses ← if isAsync || generates then pure false else accessorWord
      if words.contains "accessor" then return some (← automaticField g begin words)
      else return some (← methodOrField g begin words ⟨isStatic, isAsync, generates, accesses⟩)

/-! ## Classes -/

/-- The parent of a class: the first expression behind `extends`. -/
def parents (g : Grammar) : Parser (List Node) := do
  if ← eatWord "extends" then return (← listed g.bound (g.read .callee)).take 1
  else return []

/-- The name of an interface; only its first part is a use. -/
def interface (bound : Nat) : Parser Node := do
  let begin ← start
  let name ← anyName
  let named ← node (.use name) begin []
  let _ ← repeated (do
    if ← eatMark "." then return some (← anyName)
    else return none) bound
  return named

/-- The interfaces of a class. -/
def interfaces (bound : Nat) : Parser (List Node) := do
  if ← eatWord "implements" then listed bound (interface bound)
  else return []

/-- The head of a class behind its name, and its members. -/
def classRest (g : Grammar) (begin : Nat) (own : Option String) : Parser Node := do
  let above ← parents g
  let promised ← interfaces g.bound
  expectMark "\x7b"
  let members ← repeated (member g) g.bound
  expectMark "\x7d"
  node (.classBody own) begin (above ++ promised ++ members)

/-- The name of a class, if there is one; `implements` is none. -/
def className : Parser (Option String) := do
  if ← atWord "implements" then return none else ownName

/-- Where a class begins: at its first decorator, or else at a position. -/
def classBegin (ds : List Node) (begin : Nat) : Nat :=
  match ds with
  | d :: _ => d.span.start
  | [] => begin

/-- **A class as an expression.** -/
def classExpression (g : Grammar) : Parser Node := do
  let begin ← start
  expectWord "class"
  let ds ← takeDecorators
  let own ← className
  let c ← classRest g begin own
  if ds.isEmpty then return c else node .other (classBegin ds begin) (ds ++ [c])

/-- **A class as a statement.** -/
def classDeclaration (g : Grammar) : Parser Node := do
  let begin ← start
  expectWord "class"
  let ds ← takeDecorators
  let own ← className
  let c ← classRest g begin none
  node (.classDeclaration own) (classBegin ds begin) (ds ++ [c])

end ModuleBundler.Script.Parser
