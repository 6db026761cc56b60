import ModuleBundler.Graph.Basic
import ModuleBundler.Graph.Resolver

/-!
# Discovering modules

Starting from the entry, every module that can be reached is read, compiled and put into the
graph, depth first and in the order of the imports.

**The stack.**  What is left to do stands on a stack of frames, so a long chain of imports needs
no deep recursion.  A `visit` frame looks at a module for the first time or again, a `finish`
frame closes a module whose imports have all been visited.  Reading and compiling a module pushes
its `finish` frame and, above it, one `visit` frame for each distinct specifier, the first
uppermost.

**Cycles.**  `open` holds the modules whose imports are still being visited, outermost first.
Meeting one of them again closes a cycle: from that module along the open ones and back to it.
Each cycle is noted once.

**Without end.**  A store may hold files without end, each of which imports the next.  A discovery
in such a store never comes to an outcome, and `run` is `none` then.
-/

namespace ModuleBundler

/-- **What is left to do**: visit a module, or finish one with its import map. -/
inductive Frame where
  | visit (id : ModuleId) (importer : Option ModuleId)
  | finish (id : ModuleId) (importMap : ImportMap)

/-- **How far a discovery has come.**  `compiled` lists the modules handed to the compiler, also
    one that it refused. -/
structure Discovery where
  graph : DependencyGraph
  opened : List ModuleId
  cycles : List (List ModuleId)
  compiled : List ModuleId

/-- Where a discovery ended: how far it came, and the errors that stopped it, if any. -/
structure Discovery.Outcome where
  reached : Discovery
  errors : Option BuildErrors

namespace Discovery

variable {σ : Type}

/-- Where a discovery begins. -/
def start (entry : ModuleId) : Discovery :=
  ⟨.new entry, [], [], []⟩

/-- Note a cycle, unless it has been noted. -/
def noteCycle (d : Discovery) (cycle : List ModuleId) : Discovery :=
  if cycle ∈ d.cycles then d else { d with cycles := d.cycles ++ [cycle] }

/-- **Meet a module of the graph again.**  If it is open, a cycle is closed. -/
def revisit (d : Discovery) (id : ModuleId) : Discovery :=
  if id ∈ d.opened then d.noteCycle (d.opened.dropWhile (· ≠ id) ++ [id]) else d

/-- Close a module whose imports have all been visited. -/
def close (d : Discovery) (id : ModuleId) (importMap : ImportMap) : Discovery :=
  { d with opened := d.opened.dropLast, graph := d.graph.finish id importMap }

/-- What the specifiers of a module stand for; a repeated specifier counts once. -/
def importMapOf [FileStore σ] (r : Resolver σ) (id : ModuleId) (imports : List String) :
    ImportMap :=
  imports.foldl (fun known specifier =>
    if known.contains specifier then known
    else known.insert specifier (r.resolveId (some id) specifier)) .empty

/-- The frames for a module that has just been compiled. -/
def framesOf (id : ModuleId) (importMap : ImportMap) : List Frame :=
  importMap.values.map (.visit · (some id)) ++ [.finish id importMap]

/-- The source of a module, or the error that names its importer. -/
def readSource [FileStore σ] (store : σ) (id : ModuleId) (importer : Option ModuleId) :
    Except BuildErrors String :=
  (FileStore.read store id).mapError fun cause => [.load id importer cause]

/-- Put a compiled module into the graph and leave it open. -/
def enter (d : Discovery) (id : ModuleId) (code : String) : Discovery :=
  { d with graph := d.graph.reserve id code, opened := d.opened ++ [id] }

/-- **Read and compile a module.**  The discovery with the module in it and its frames, or the
    errors. -/
def expand [FileStore σ] (r : Resolver σ) (compile : Compiler) (d : Discovery) (id : ModuleId)
    (importer : Option ModuleId) : Discovery × Except BuildErrors (List Frame) :=
  match readSource r.store id importer with
  | .error errors => (d, .error errors)
  | .ok source =>
      let noted := { d with compiled := d.compiled ++ [id] }
      match compile id source with
      | .error errors => (noted, .error errors)
      | .ok unit =>
          (noted.enter id unit.code, .ok (framesOf id (importMapOf r id unit.imports)))

/-- What comes of a turn: the end, or the frames that are left. -/
inductive Turn where
  | halt (outcome : Outcome)
  | next (frames : List Frame) (d : Discovery)

/-- **One turn**: take the uppermost frame off the stack and work it off. -/
def turn [FileStore σ] (r : Resolver σ) (compile : Compiler) :
    List Frame → Discovery → Turn
  | [], d => .halt ⟨d, none⟩
  | .finish id importMap :: rest, d => .next rest (d.close id importMap)
  | .visit id importer :: rest, d =>
      if d.graph.contains id then .next rest (d.revisit id)
      else match expand r compile d id importer with
        | (reached, .error errors) => .halt ⟨reached, some errors⟩
        | (reached, .ok frames) => .next (frames ++ rest) reached

/-- **Work off a stack of frames**, turn by turn until a turn is the last. -/
def run [FileStore σ] (r : Resolver σ) (compile : Compiler) (frames : List Frame)
    (d : Discovery) : Option Outcome :=
  match turn r compile frames d with
  | .halt outcome => some outcome
  | .next frames d => d |>.run r compile frames
partial_fixpoint

/-- **Discover** everything that can be reached from the entry. -/
def discover [FileStore σ] (r : Resolver σ) (compile : Compiler) (entry : ModuleId) :
    Option Outcome :=
  run r compile [.visit entry none] (start entry)

end Discovery

end ModuleBundler
