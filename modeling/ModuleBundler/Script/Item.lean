import ModuleBundler.Script.Tree

/-!
# The items of a script

At its top a script is a list of items: imports, exports and plain statements.

**Imports** bring in names.  A binding reads either the whole of a module or one of its exports;
what is called the default is the export of that name.

**Exports** give names to the outside: those of a declaration, of names declared elsewhere, of
another module, or of a single value.
-/

namespace ModuleBundler.Script

/-- **What an import reads** of a module. -/
inductive Part where
  | whole
  | named (name : String)
deriving DecidableEq, Repr

/-- The default export. -/
def Part.default : Part := .named "default"

/-- A name that an import brings in. -/
structure Binding where
  name : String
  part : Part
deriving DecidableEq, Repr

/-- A name inside, and the name that the outside sees. -/
structure Exposure where
  inside : String
  outside : String
deriving DecidableEq, Repr

/-- **An item** of a script, with the stretch that it covers. -/
inductive Item where
  | importing (span : Span) (source : String) (bindings : List Binding)
  /-- Exports of another module; the names inside are its names. -/
  | reexport (span : Span) (source : String) (names : List Exposure)
  /-- All exports of another module, under one name if there is one. -/
  | reexportAll (span : Span) (source : String) (outside : Option String)
  | exportNames (span : Span) (names : List Exposure)
  | exportDeclaration (span : Span) (declaration : Node)
  /-- The default export: a declaration or an expression. -/
  | exportDefault (span : Span) (value : Node)
  | statement (node : Node)

/-- **The outline of a script**: the line that tells a system how to run it, if there is one, and
    its items. -/
structure Program where
  hashbang : Option Span
  items : List Item

/-- The names that a declaration introduces around it. -/
def Node.declaredNames : Node → List String
  | .node (.declaration hoisted) span cs => Node.binders (.node (.declaration hoisted) span cs)
  | .node (.functionDeclaration name) _ _ => name.toList
  | .node (.classDeclaration name) _ _ => name.toList
  | _ => []

namespace Item

/-- What the item covers. -/
def span : Item → Span
  | .importing s _ _ => s
  | .reexport s _ _ => s
  | .reexportAll s _ _ => s
  | .exportNames s _ => s
  | .exportDeclaration s _ => s
  | .exportDefault s _ => s
  | .statement n => n.span

/-- The names that the item exports one by one. -/
def exportedNames : Item → List String
  | .reexport _ _ names => names.map Exposure.outside
  | .reexportAll _ _ outside => outside.toList
  | .exportNames _ names => names.map Exposure.outside
  | .exportDeclaration _ d => d.declaredNames
  | .exportDefault _ _ => ["default"]
  | .importing _ _ _ => []
  | .statement _ => []

/-- The item as a part of a syntax tree. -/
def toNode : Item → Node
  | .importing s _ bindings => .node (.importing (bindings.map Binding.name)) s []
  | .exportDeclaration s d => .node .other s [d]
  | .exportDefault s v => .node .other s [v]
  | .statement n => n
  | item => .node .other item.span []

end Item

end ModuleBundler.Script
