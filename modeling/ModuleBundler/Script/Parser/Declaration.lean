import ModuleBundler.Script.Parser.Expression

/-!
# Declarations of variables

A declaration is a word and a list of patterns, some of them with values.  As statements of their
own, constants and patterns that take something apart need a value.

**Disposed variables** are declared by `using` and have plain names.  They are seen in the whole
function around them, as those of `var` are.
-/

namespace ModuleBundler.Script.Parser

/-- A pattern, and possibly a value. -/
def declarator (g : Grammar) : Parser Node := do
  let begin ← start
  let p ← g.read .pattern
  if ← eatMark "=" then
    let value ← g.read .assigned
    node .declarator begin [p, value]
  else node .declarator begin [p]

/-- Whether a declarator has a value or needs none. -/
def declaratorComplete (constant : Bool) (d : Node) : Bool :=
  match d.children with
  | [p] => !constant && p.isBinder
  | _ => true

/-- **Variables** that were declared, and whether they are constant. -/
structure Variables where
  constant : Bool
  node : Node

/-- Whether every variable that needs a value has one. -/
def Variables.complete (v : Variables) : Bool :=
  v.node.children.all (declaratorComplete v.constant)

/-- Variables behind the word that declares them, in a declaration that begins at a position. -/
def variableList (g : Grammar) (begin : Nat) : Parser Variables := do
  let constant ← atWord "const"
  let hoisted ← atWord "var"
  takeKeyword
  let ds ← listed g.bound (declarator g)
  return ⟨constant, ← node (.declaration hoisted) begin ds⟩

/-- Whether a name follows the word `using`, perhaps behind `await`. -/
def atDisposed : Parser Bool := do
  let named : Parser Bool := do
    return (← atWord "using") && (← peek).lexeme.isVariable
  if ← atWord "await" then
    return (← ahead do advance; named).getD false
  else named

/-- Variables that are disposed of when their block is left; each has a plain name on the line of
    the word. -/
def disposed (g : Grammar) : Parser Variables := do
  let begin ← start
  let _ ← eatWord "await"
  expectWord "using"
  require (!(← onNewLine)) .misplacedLineBreak
  let ds ← listed g.bound (declarator g)
  require (ds.all fun d => (d.children.take 1).all Node.isBinder) .badTarget
  return ⟨true, ← node (.declaration true) begin ds⟩

/-- Whether `let` declares variables here, at the head of a loop. -/
def letDeclares : Lexeme → Bool
  | .word name _ => name != "in"
  | .mark t => t == "\x7b" || t == "["
  | _ => false

end ModuleBundler.Script.Parser
