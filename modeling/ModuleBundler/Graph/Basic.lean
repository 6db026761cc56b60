import ModuleBundler.Compiler
import ModuleBundler.OrderedMap

/-!
# Dependency graphs

The graph of a build holds every module that was reached, with its code and with the map from the
specifiers it uses to the modules they stand for.  Modules are kept in the order in which they
were found.

**Two steps for each module.**  A module is *reserved* as soon as it is compiled, before anything
it asks for is looked at, and has an empty import map until it is *finished* with its final one.
A reservation never replaces an earlier one, and finishing a module that was not reserved
does nothing.
-/

namespace ModuleBundler

/-- The modules that the specifiers of one module stand for, in the order of the source. -/
abbrev ImportMap := OrderedMap String ModuleId

/-- **What a graph keeps of a module.** -/
structure ModuleRecord where
  code : String
  importMap : ImportMap

/-- **A dependency graph**: the module to start with, and all modules in the order found. -/
structure DependencyGraph where
  entry : ModuleId
  modules : OrderedMap ModuleId ModuleRecord

namespace DependencyGraph

/-- The graph without modules. -/
def new (entry : ModuleId) : DependencyGraph := ⟨entry, .empty⟩

/-- Whether a module was reserved. -/
def contains (g : DependencyGraph) (id : ModuleId) : Bool :=
  g.modules.contains id

/-- What the graph keeps of a module, if it was reserved. -/
def get? (g : DependencyGraph) (id : ModuleId) : Option ModuleRecord :=
  g.modules.get? id

/-- The modules in the order found. -/
def ids (g : DependencyGraph) : List ModuleId :=
  g.modules.keys

/-- How many modules there are. -/
def size (g : DependencyGraph) : Nat :=
  g.modules.size

/-- Whether there are none. -/
def isEmpty (g : DependencyGraph) : Bool :=
  g.modules.isEmpty

/-- **Reserve a module** with its code; the graph as it is if it already was reserved. -/
def reserve (g : DependencyGraph) (id : ModuleId) (code : String) : DependencyGraph :=
  if g.contains id then g
  else { g with modules := g.modules.insert id ⟨code, .empty⟩ }

/-- Reserve a module, and say whether the reservation was taken: it is only if there was none. -/
def tryReserve (g : DependencyGraph) (id : ModuleId) (code : String) : DependencyGraph × Bool :=
  (g.reserve id code, !g.contains id)

/-- **Finish a module** with its import map. -/
def finish (g : DependencyGraph) (id : ModuleId) (importMap : ImportMap) : DependencyGraph :=
  { g with modules := g.modules.modify id fun record => { record with importMap := importMap } }

end DependencyGraph

end ModuleBundler
