import ModuleBundler.Script.Parser.Basic

/-!
# Keys and patterns

A key names a field of an object, a member of a class or a field in a pattern.  A pattern takes a
value apart and binds names to its parts.
-/

namespace ModuleBundler.Script.Parser

/-- **The key** of a field: what is computed, if anything, and the name, if it is spelled out. -/
structure Key where
  computed : Option Node
  name : Option String
  secret : Bool

/-- The part of a key that is computed, if there is one. -/
def Key.nodes (key : Key) : List Node := key.computed.toList

/-- An expression without commas where `in` is an operator. -/
def plainAssigned (g : Grammar) : Parser Node := withInOperator (g.read .assigned)

/-- Read a key. -/
def key (g : Grammar) : Parser Key := do
  match ← lexeme with
  | .word name _ => advance; return ⟨none, some name, false⟩
  | .text value => advance; return ⟨none, some value, false⟩
  | .number => advance; return ⟨none, none, false⟩
  | .mark "[" =>
      advance
      let e ← withInOperator (g.read .assigned)
      expectMark "]"
      return ⟨some e, none, false⟩
  | _ => unexpected

/-- A pattern, and behind an equals sign the value it takes by default. -/
def patternWithDefault (g : Grammar) : Parser Node := do
  let begin ← start
  let p ← g.read .pattern
  if ← eatMark "=" then
    let value ← plainAssigned g
    node .fallback begin [p, value]
  else return p

/-- A rest element, which must be the last one and may have a default. -/
def restPattern (g : Grammar) (closing : String) : Parser Node := do
  let begin ← start
  advance
  let p ← patternWithDefault g
  require (← atMark closing) .restNotLast
  node .rest begin [p]

/-- An element of an array pattern; a comma takes the place of one that is left out. -/
def patternElement (g : Grammar) : Parser (Option Node) := do
  let begin ← start
  if ← atMark "]" then return none
  else if ← eatMark "," then return some (← node .hole begin [])
  else if ← atMark "..." then return some (← restPattern g "]")
  else do
    let p ← patternWithDefault g
    if ← atMark "]" then pure () else expectMark ","
    return some p

/-- A field of an object pattern that is written as a name only, possibly with a default. -/
def shorthandPattern (g : Grammar) (begin : Nat) : Parser Node := do
  let b ← withPlainNames binder
  if ← eatMark "=" then
    let value ← plainAssigned g
    node .fallback begin [b, value]
  else return b

/-- A field of an object pattern.  The rest of the fields goes to a single name. -/
def patternField (g : Grammar) : Parser (Option Node) := do
  let begin ← start
  if ← atMark "\x7d" then return none
  else if ← atMark "..." then
    let r ← restPattern g "\x7d"
    require (r.children.all Node.isBinder) .badTarget
    return some r
  else do
    let here ← token
    let p ←
      if here.lexeme.isVariable && !(← peek).lexeme.isMark ":" then shorthandPattern g begin
      else do
        let k ← key g
        expectMark ":"
        let p ← patternWithDefault g
        node .keyed begin (k.nodes ++ [p])
    if ← atMark "\x7d" then pure () else expectMark ","
    return some p

/-- **A pattern.** -/
def pattern (g : Grammar) : Parser Node := do
  let begin ← start
  if ← eatMark "[" then
    let elements ← repeated (patternElement g) g.bound
    expectMark "]"
    node .pattern begin elements
  else if ← eatMark "\x7b" then
    let fields ← repeated (patternField g) g.bound
    expectMark "\x7d"
    node .pattern begin fields
  else binder

end ModuleBundler.Script.Parser
