import ModuleBundler.Script.Item
import ModuleBundler.Script.Scope

/-!
# Which names stand for which variables

`Node.resolve` goes through a part of a script from its first character to its last, declares what
is declared and lets uses wait, and `Resolution.ofItems` does so for a whole script.

**What is declared where.**  A `let`, class or function declaration and an import belong to the
scope around them; other variables are hoisted.  Parameters and the name of a function expression
belong to the function, the name of a class expression to the class, what the head of a loop
declares to the loop, and the parameter of a `catch` clause to its block.

**Parameters come first.**  The uses in parameters are settled before the body declares anything, so
a default does not see the variables of the body.
-/

namespace ModuleBundler.Script

mutual

/-- **Resolve the names** in a part of a script. -/
def Node.resolve : Node → Resolution → Resolution
  | .node (.use name) span _, r => r.use ⟨name, span, .plain⟩
  | .node .call _ (.node (.use name) span _ :: arguments), r =>
      resolveAll arguments (r.use ⟨name, span, .called⟩)
  | .node .shorthand _ (.node (.use name) span _ :: value), r =>
      resolveAll value (r.use ⟨name, span, .keyed⟩)
  | .node (.declaration hoisted) _ cs, r =>
      let names := bindersOfAll cs
      resolveAll cs (if hoisted then r.hoistAll names else r.declareAll names)
  | .node (.functionDeclaration name) _ cs, r => resolveAll cs (r.declareAll name.toList)
  | .node (.classDeclaration name) _ cs, r => resolveAll cs (r.declareAll name.toList)
  | .node (.importing names) _ _, r => r.declareAll names
  | .node (.function own) _ [parameters, body], r =>
      let inside := (r.enter true).declareAll (own.toList ++ parameters.binders)
      (body.resolve (parameters.resolve inside).settle).leave
  | .node .staticBlock _ cs, r => (resolveAll cs (r.enter true)).leave
  | .node (.classBody own) _ cs, r =>
      (resolveAll cs ((r.enter false).declareAll own.toList)).leave
  | .node .block _ cs, r => (resolveAll cs (r.enter false)).leave
  | .node .loop _ cs, r => (resolveAll cs (r.enter false)).leave
  | .node .cases _ cs, r => (resolveAll cs (r.enter false)).leave
  | .node .catchClause _ [parameter, .node .block _ body], r =>
      let inside := (r.enter false).declareAll parameter.binders
      (resolveAll body (parameter.resolve inside).settle).leave
  | .node _ _ cs, r => resolveAll cs r

/-- Go through neighbours from left to right. -/
def resolveAll : List Node → Resolution → Resolution
  | [], r => r
  | n :: rest, r => resolveAll rest (n.resolve r)

end

/-- Resolve the names in an item; those that it imports are imported by the script. -/
def Item.resolve (r : Resolution) : Item → Resolution
  | .importing _ _ bindings => (bindings.map Binding.name).foldl Resolution.importName r
  | item => item.toNode.resolve r

/-- **The names of a script**, resolved. -/
def Resolution.ofItems (items : List Item) : Resolution :=
  (items.foldl Item.resolve .start).settle

end ModuleBundler.Script
