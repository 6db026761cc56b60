import ModuleBundler.Loading.Value

/-!
# Module tables

A table holds the modules of a bundle under their ids, together with the id of the entry.  A
module has an import map, which says what its specifiers stand for, and a factory, which is a
short program of steps.

The steps of a factory work on the module's own variables and on the exports it builds up, and
they reach other modules by `require` only.
-/

namespace ModuleBundler.Loading

/-- **One step of a factory.** -/
inductive Step where
  /-- Say a text. -/
  | say (text : String)
  /-- Require a module and keep its exports; if that fails, so does the factory. -/
  | require (specifier slot : String)
  /-- Require a module and keep its exports; if that fails, say why and go on. -/
  | tryRequire (specifier slot : String)
  /-- Say what a variable holds. -/
  | exhibit (slot : String)
  /-- Export a value. -/
  | publish (name : String) (value : Value)
  /-- Export a property of what a variable holds, or null if it has no such property. -/
  | publishFrom (name slot property : String)
  /-- Export what a variable holds in place of everything exported so far. -/
  | replace (slot : String)
  /-- Fail. -/
  | fail (message : String)

/-- **One module of a table.** -/
structure TableModule where
  importMap : OrderedMap String String
  steps : List Step

/-- **A module table.** -/
structure Table where
  entry : String
  modules : OrderedMap String TableModule

namespace Table

/-- The table without modules. -/
def new (entry : String) : Table := ⟨entry, .empty⟩

/-- Put a module into the table, in place of one with the same id. -/
def insert (t : Table) (id : String) (m : TableModule) : Table :=
  { t with modules := t.modules.insert id m }

/-- The module of an id, if there is one. -/
def get? (t : Table) (id : String) : Option TableModule :=
  t.modules.get? id

/-- How many modules there are. -/
def size (t : Table) : Nat :=
  t.modules.size

/-- Whether there are none. -/
def isEmpty (t : Table) : Bool :=
  t.modules.isEmpty

end Table

end ModuleBundler.Loading
