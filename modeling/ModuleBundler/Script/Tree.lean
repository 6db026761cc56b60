import ModuleBundler.Script.Token

/-!
# Syntax trees

A syntax tree is made of nodes of one shape: what a node is, the stretch of the script it covers,
and the nodes inside it, in the order of the script.  Only what matters for names is told apart;
operators, literals and most statements are `other`.

**Names.**  `use` reads or writes a variable, `binder` introduces one.  A `shorthand` field
`{ name }` is both a key and a use, and has the use as its first child; the second, if there is
one, is the value it takes by default.

**Scopes.**  `block`, `loop`, `cases`, `classBody` and `catchClause` keep what is declared inside
them, except for variables that are `hoisted`.  `function` and `staticBlock` keep these as well.

**Patterns.**  The children of `pattern` and `parameters` may bind names; `fallback` is a pattern
with a value by default, and `keyed` a pattern behind a key.
-/

namespace ModuleBundler.Script

/-- **What a node is.** -/
inductive Kind where
  | use (name : String)
  | binder (name : String)
  /-- A field `{ name }`: the use, and possibly a default. -/
  | shorthand
  /-- A field `{ name = value }` of an object that has not turned out to be a target. -/
  | halfShorthand
  /-- A call: what is called, and the arguments. -/
  | call
  /-- A template behind a tag, which is called with it: the tag, and what is filled in. -/
  | tagged
  /-- An expression in parentheses. -/
  | group
  /-- An access to a property: the object, and the key if it is computed. -/
  | member
  /-- A call that loads a module. -/
  | loading
  /-- An assignment: the target, and the value. -/
  | assignment
  | array
  | object
  /-- A field with a key: the key if it is computed, and the value. -/
  | field
  /-- A method, getter or setter: the key if it is computed, and the function. -/
  | method
  /-- A spread element; `followed` says that a comma comes after it. -/
  | spread (followed : Bool)
  /-- An element that is left out. -/
  | hole
  /-- A pattern or target of several elements. -/
  | pattern
  /-- A rest element of a pattern. -/
  | rest
  /-- A pattern behind a key: the key if it is computed, and the pattern. -/
  | keyed
  /-- A pattern with a default: the pattern and the value. -/
  | fallback
  /-- A function: its parameters and its body.  `own` is the name it has inside itself only. -/
  | function (own : Option String)
  | parameters
  | body
  /-- A class: its parent and the names of its interfaces, if any, and its members.  `own` is the
      name it has inside itself only. -/
  | classBody (own : Option String)
  | staticBlock
  /-- A declaration of variables, made of `declarator`s. -/
  | declaration (hoisted : Bool)
  /-- A pattern, and its value if there is one. -/
  | declarator
  /-- A named function as a statement; its child is the function. -/
  | functionDeclaration (name : Option String)
  /-- A class as a statement; its last child is the class, others are decorators. -/
  | classDeclaration (name : Option String)
  /-- An import inside a statement, with the names it declares. -/
  | importing (names : List String)
  | block
  /-- A loop whose head declares variables. -/
  | loop
  | cases
  | catchClause
  /-- Anything else. -/
  | other
deriving DecidableEq, Repr

/-- **A syntax tree.** -/
inductive Node where
  | node (kind : Kind) (span : Span) (children : List Node)

namespace Node

/-- What sort of part the node is. -/
def kind : Node → Kind
  | .node k _ _ => k

/-- The stretch that the node covers. -/
def span : Node → Span
  | .node _ s _ => s

/-- The parts of the node. -/
def children : Node → List Node
  | .node _ _ cs => cs

instance : Inhabited Node := ⟨.node .other ⟨0, 0⟩ []⟩

/-- The name of a variable that is used, if the node is that and no more. -/
def useName? : Node → Option String
  | .node (.use name) _ _ => some name
  | _ => none

/-- Whether the node is a single name that is introduced. -/
def isBinder : Node → Bool
  | .node (.binder _) _ _ => true
  | _ => false

/-- Whether the node is an array or object. -/
def isComposite : Node → Bool
  | .node .array _ _ => true
  | .node .object _ _ => true
  | _ => false

end Node

mutual

/-- The names that a pattern binds, in order. -/
def Node.binders : Node → List String
  | .node (.binder name) _ _ => [name]
  | .node .pattern _ cs => bindersOfAll cs
  | .node .rest _ cs => bindersOfAll cs
  | .node .parameters _ cs => bindersOfAll cs
  | .node (.declaration _) _ cs => bindersOfAll cs
  | .node .keyed _ cs => bindersOfLast cs
  | .node .fallback _ cs => bindersOfFirst cs
  | .node .declarator _ cs => bindersOfFirst cs
  | _ => []

/-- The names that neighbours bind. -/
def bindersOfAll : List Node → List String
  | [] => []
  | n :: rest => n.binders ++ bindersOfAll rest

/-- The names that the first of some nodes binds. -/
def bindersOfFirst : List Node → List String
  | [] => []
  | n :: _ => n.binders

/-- The names that the last of some nodes binds. -/
def bindersOfLast : List Node → List String
  | [] => []
  | [n] => n.binders
  | _ :: rest => bindersOfLast rest

end

mutual

/-- Whether there is a field `{ name = value }` left that no target has taken up. -/
def Node.hasHalfShorthand : Node → Bool
  | .node kind _ cs => kind == .halfShorthand || anyHalfShorthand cs

/-- Whether one of some nodes has a field that only a target could have. -/
def anyHalfShorthand : List Node → Bool
  | [] => false
  | n :: rest => n.hasHalfShorthand || anyHalfShorthand rest

end

/-! ## Expressions as targets

What stands on the left of an assignment is first read as an expression.  `Node.asTarget?` reads
it as a target: a name, a property, or an array or object of targets.
-/

mutual

/-- An expression as a target of one value; parentheses do not matter around it. -/
def Node.asSimpleTarget? : Node → Option Node
  | .node (.use name) span cs => some (.node (.use name) span cs)
  | .node .member span cs => some (.node .member span cs)
  | .node .group span cs =>
      if cs.any Node.isComposite then none
      else (allSimpleTargets? cs).map (.node .group span ·)
  | _ => none

/-- Some expressions as targets of one value each. -/
def allSimpleTargets? : List Node → Option (List Node)
  | [] => some []
  | n :: rest => do
      let t ← n.asSimpleTarget?
      let ts ← allSimpleTargets? rest
      some (t :: ts)

end

/-- The spread elements of a target must come last, without a comma. -/
def spreadOnlyLast : List Node → Bool
  | [] => true
  | .node (.spread followed) _ _ :: rest => !followed && rest.isEmpty
  | _ :: rest => spreadOnlyLast rest

mutual

/-- **An expression as a target.** -/
def Node.asTarget? : Node → Option Node
  | .node .array span cs =>
      if spreadOnlyLast cs then (elementTargets? cs).map (.node .pattern span ·) else none
  | .node .object span cs =>
      if spreadOnlyLast cs then (fieldTargets? cs).map (.node .pattern span ·) else none
  | .node (.use name) span cs => some (.node (.use name) span cs)
  | .node .member span cs => some (.node .member span cs)
  | .node .group span cs =>
      if cs.any Node.isComposite then none
      else (allSimpleTargets? cs).map (.node .group span ·)
  | _ => none

/-- Some expressions as targets. -/
def allTargets? : List Node → Option (List Node)
  | [] => some []
  | n :: rest => do
      let t ← n.asTarget?
      let ts ← allTargets? rest
      some (t :: ts)

/-- The elements of an array as targets, which may have defaults. -/
def elementTargets? : List Node → Option (List Node)
  | [] => some []
  | .node .hole span cs :: rest => do
      let ts ← elementTargets? rest
      some (.node .hole span cs :: ts)
  | .node (.spread _) span cs :: rest => do
      let inner ← allTargets? cs
      let ts ← elementTargets? rest
      some (.node .rest span inner :: ts)
  | .node .assignment span cs :: rest => do
      let ts ← elementTargets? rest
      some (.node .fallback span cs :: ts)
  | n :: rest => do
      let t ← n.asTarget?
      let ts ← elementTargets? rest
      some (t :: ts)

/-- The fields of an object as targets. -/
def fieldTargets? : List Node → Option (List Node)
  | [] => some []
  | .node .shorthand span cs :: rest => do
      let ts ← fieldTargets? rest
      some (.node .shorthand span cs :: ts)
  | .node .halfShorthand span cs :: rest => do
      let ts ← fieldTargets? rest
      some (.node .shorthand span cs :: ts)
  | .node .field span cs :: rest => do
      let inner ← lastTarget? cs
      let ts ← fieldTargets? rest
      some (.node .keyed span inner :: ts)
  | .node (.spread _) span cs :: rest => do
      let inner ← allTargets? cs
      let ts ← fieldTargets? rest
      some (.node .rest span inner :: ts)
  | _ => none

/-- The last of some nodes as a target, which may have a default; those before it are keys and
    stay. -/
def lastTarget? : List Node → Option (List Node)
  | [] => none
  | [.node .assignment span cs] => some [.node .fallback span cs]
  | [n] => n.asTarget?.map ([·])
  | n :: rest => (lastTarget? rest).map (n :: ·)

end

end ModuleBundler.Script
