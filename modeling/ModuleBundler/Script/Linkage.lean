import ModuleBundler.Identifier.Name
import ModuleBundler.OrderedMap
import ModuleBundler.Path.Basic
import ModuleBundler.Script.Resolve

/-!
# How a script is linked to other modules

The body of a module asks for other modules with `require` and shows its own names on `exports`.
`Linkage.ofItems` finds out what has to be asked for and shown.

**Requests.**  Every import and every export of another module asks for it once.  Unless nothing is
read of it, the answer is kept in a variable, which is named after the module; of several with one
name, the later ones are numbered.

**Accesses.**  An imported name is read from the variable of its module each time it is used, so
that it always has the value that the other module gives it at that time.  Two imports of one name
are one variable to the script, and the later one is read.

**Getters.**  For the same reason an exported name is shown as a function that reads it.  An
exported name may itself be an imported one, even if the import comes later; such exports are
therefore settled at the end.
-/

namespace ModuleBundler.Script

/-- **Something shown** on `exports`: a name, and the expression that gives its value. -/
structure Getter where
  outside : String
  value : String
deriving DecidableEq, Repr

/-- **A request** for another module. -/
inductive Request where
  /-- Only run it. -/
  | run (source : String)
  /-- Keep what it exports in a variable. -/
  | keep (variableName : String) (source : String)
  /-- Keep what it exports, and show all of it. -/
  | showAll (variableName : String) (source : String)
deriving DecidableEq, Repr

namespace Request

/-- The specifier that is asked for. -/
def source : Request → String
  | .run s => s
  | .keep _ s => s
  | .showAll _ s => s

/-- The variable that keeps the answer, if there is one. -/
def variableName? : Request → Option String
  | .run _ => none
  | .keep v _ => some v
  | .showAll v _ => some v

end Request

/-- **How a script is linked.** -/
structure Linkage where
  requests : List Request
  getters : List Getter
  /-- The expressions that read the imported names, in the order of the imports. -/
  accesses : List String
  /-- Exports of names that are declared somewhere in the script. -/
  pending : List Exposure
  /-- How often the name of each variable was wanted again. -/
  wanted : OrderedMap String Nat

namespace Linkage

/-- The linkage of no items. -/
def empty : Linkage := ⟨[], [], [], [], .empty⟩

/-- The name that the variable for a module has by itself. -/
def plainName (source : String) : String :=
  Identifier.legitimize (Path.callName ⟨source⟩)

/-- The variable for the next request of a module, and the count that results. -/
def nextVariable (l : Linkage) (source : String) : String × Nat :=
  match l.wanted.get? (plainName source) with
  | none => ("__" ++ plainName source, 0)
  | some n => ("__" ++ plainName source ++ "$" ++ toString (n + 1), n + 1)

/-- Make a request whose answer is kept. -/
def request (l : Linkage) (source : String) (make : String → String → Request) : Linkage :=
  let next := l.nextVariable source
  { l with
    requests := l.requests ++ [make next.1 source]
    wanted := l.wanted.insert (plainName source) next.2 }

/-- The expression that reads a part of a module that is kept in a variable. -/
def readPart (variableName : String) : Part → String
  | .whole => variableName
  | .named name => Identifier.access variableName name

/-- What an item adds. -/
def addItem (l : Linkage) : Item → Linkage
  | .importing _ source [] => { l with requests := l.requests ++ [.run source] }
  | .importing _ source bindings =>
      let v := (l.nextVariable source).1
      let l := l.request source .keep
      { l with accesses := l.accesses ++ bindings.map fun b => readPart v b.part }
  | .reexport _ source names =>
      let v := (l.nextVariable source).1
      let l := l.request source .keep
      { l with
        getters := l.getters ++
          names.map fun e => ⟨e.outside, readPart v (.named e.inside)⟩ }
  | .reexportAll _ source none => l.request source .showAll
  | .reexportAll _ source (some outside) =>
      let v := (l.nextVariable source).1
      let l := l.request source .keep
      { l with getters := l.getters ++ [⟨outside, v⟩] }
  | .exportNames _ names => { l with pending := l.pending ++ names }
  | .exportDeclaration _ declaration =>
      { l with getters := l.getters ++ declaration.declaredNames.map fun name => ⟨name, name⟩ }
  | .exportDefault _ value =>
      { l with
        getters := l.getters ++ value.declaredNames.map fun name => ⟨"default", name⟩ }
  | .statement _ => l

/-- The expression that reads a variable, if it is imported; of several imports of one variable the
    last one counts. -/
def access? (l : Linkage) (r : Resolution) (v : Variable) : Option String :=
  (r.imports.zip l.accesses).reverse.lookup v

/-- The expression that reads a name at the top of a script. -/
def read (l : Linkage) (r : Resolution) (name : String) : String :=
  ((r.named? name).bind (l.access? r)).getD name

/-- Settle the exports of names that are declared somewhere. -/
def settle (l : Linkage) (r : Resolution) : Linkage :=
  { l with
    getters := l.getters ++ l.pending.map fun e => ⟨e.outside, l.read r e.inside⟩
    pending := [] }

/-- **How items are linked**, given what their names stand for. -/
def ofItems (r : Resolution) (items : List Item) : Linkage :=
  (items.foldl addItem empty).settle r

/-- The specifiers that are asked for, in their order. -/
def sources (l : Linkage) : List String := l.requests.map Request.source

end Linkage

end ModuleBundler.Script
