import ModuleBundler.Loading.Table
import ModuleBundler.Text.Lines

/-!
# Loading modules

A loader runs the factories of a table.  It keeps the exports of every module whose factory has
returned (`cache`), and counts how often each factory was entered (`counts`).  A count has 32 bits,
and after its last number it begins at zero again.

**Loading.**  A cached module is answered from the cache.  For any other the factory is run, and
if it returns, its exports are cached.

**Requiring.**  A factory requires a module by a specifier of its import map.  If the target has
been entered and is not cached, the answer is an empty stand-in: that is how cycles end.  Otherwise
the target is loaded.

**What happened.**  Every entering, leaving, answering and saying is noted in `events`, in order.

**Depth.**  A nested loading enters only factories whose count is zero, and leaves it at one, so
below the outermost factory there run at most as many as the table has modules; `load` allows for
one level more.
-/

namespace ModuleBundler.Loading

/-- **Why a loading failed at the bottom.** -/
inductive Problem where
  /-- The table has no such module. -/
  | moduleNotFound (id : String)
  /-- The import map of a module does not have the specifier. -/
  | unknownSpecifier (importer specifier : String)
  /-- A factory failed of its own accord. -/
  | failed (message : String)
deriving DecidableEq, Repr

/-- The wording of a problem. -/
def Problem.message : Problem → String
  | .moduleNotFound id => "Cannot find module '" ++ id ++ "'"
  | .unknownSpecifier importer specifier =>
      "Cannot find module '" ++ specifier ++ "' imported by '" ++ importer ++ "'"
  | .failed message => message

/-- **A failed loading**: the modules whose factories it ended, outermost first, and the problem
    at the bottom. -/
structure Failure where
  within : List String
  problem : Problem
deriving DecidableEq, Repr

/-- The modules that were being instantiated, outermost first, and the problem behind them. -/
def Failure.message (f : Failure) : String :=
  ": ".intercalate
    (f.within.map (fun id => "Failed to instantiate '" ++ id ++ "'") ++ [f.problem.message])

/-- **What happened** in the course of a loading. -/
inductive Event where
  /-- A factory was entered. -/
  | entered (id : String)
  /-- A factory ended; with its exports if it returned. -/
  | left (id : String) (exports : Option Exports)
  /-- A `require` was answered, with a stand-in or with the exports of the target. -/
  | answered (importer specifier target : String) (standIn : Bool) (exports : Exports)
  /-- A factory said something. -/
  | said (text : String)

/-- What a factory said. -/
def Event.text? : Event → Option String
  | .said text => some text
  | _ => none

/-- **A loader** between two loadings or in the middle of one. -/
structure Loader where
  cache : OrderedMap String Exports
  counts : OrderedMap String UInt32
  events : List Event

namespace Loader

/-- A loader to which nothing has happened yet. -/
def fresh : Loader := ⟨.empty, .empty, []⟩

/-- The count of a module; one that was never entered has none, and counts as zero. -/
def stored (l : Loader) (id : String) : UInt32 :=
  (l.counts.get? id).getD 0

/-- **How often a factory was entered**, as far as its count tells. -/
def count (l : Loader) (id : String) : Nat :=
  (l.stored id).toNat

/-- Whether a module was entered and has no exports yet. -/
def isInstantiating (l : Loader) (id : String) : Bool :=
  decide (0 < l.count id) && !l.cache.contains id

/-- What the factories have said. -/
def sayings (l : Loader) : List String :=
  l.events.filterMap Event.text?

/-- Note that something happened. -/
def note (l : Loader) (e : Event) : Loader :=
  { l with events := l.events ++ [e] }

/-- Enter a factory, and count that. -/
def enter (l : Loader) (id : String) : Loader :=
  { l with counts := l.counts.insert id (l.stored id + 1) }.note (.entered id)

/-- A factory returns, and its exports are kept. -/
def keep (l : Loader) (id : String) (exports : Exports) : Loader :=
  { l with cache := l.cache.insert id exports }.note (.left id (some exports))

/-- A loader along with the answer of what it has just done. -/
abbrev Answer := Loader × Except Failure Exports

/-- **The state of a running factory**: its variables and what it exports so far. -/
structure Frame where
  slots : OrderedMap String Exports
  exports : Exports

/-- What a variable holds; one that was never set holds no exports. -/
def Frame.read (f : Frame) (slot : String) : Exports :=
  (f.slots.get? slot).getD .empty

/-- The frame of a factory that has just been entered. -/
def Frame.initial : Frame := ⟨.empty, .empty⟩

/-- **Run the steps of a factory**, given how it requires. -/
def runSteps (require : String → Loader → Answer) : List Step → Frame → Loader → Answer
  | [], f, l => (l, .ok f.exports)
  | .say text :: rest, f, l => runSteps require rest f (l.note (.said text))
  | .require specifier slot :: rest, f, l =>
      match require specifier l with
      | (next, .ok exports) =>
          runSteps require rest
            { f with slots := f.slots.insert slot exports } next
      | (next, .error failure) => (next, .error failure)
  | .tryRequire specifier slot :: rest, f, l =>
      match require specifier l with
      | (next, .ok exports) =>
          runSteps require rest
            { f with slots := f.slots.insert slot exports } next
      | (next, .error failure) =>
          runSteps require rest f (next.note (.said ("caught " ++ failure.message)))
  | .exhibit slot :: rest, f, l =>
      runSteps require rest f (l.note (.said (writeExports (f.read slot))))
  | .publish name value :: rest, f, l =>
      runSteps require rest { f with exports := f.exports.insert name value } l
  | .publishFrom name slot property :: rest, f, l =>
      let value := ((f.read slot).get? property).getD .null
      runSteps require rest { f with exports := f.exports.insert name value } l
  | .replace slot :: rest, f, l =>
      runSteps require rest { f with exports := f.read slot } l
  | .fail message :: _, _, l => (l, .error ⟨[], .failed message⟩)

/-- **Require by specifier**, given how modules are loaded. -/
def requireBy (load : String → Loader → Answer) (importer : String)
    (importMap : OrderedMap String String) (specifier : String) (l : Loader) : Answer :=
  match importMap.get? specifier with
  | none => (l, .error ⟨[], .unknownSpecifier importer specifier⟩)
  | some target =>
      if l.isInstantiating target then
        (l.note (.answered importer specifier target true .empty), .ok .empty)
      else match load target l with
        | (next, .ok exports) =>
            (next.note (.answered importer specifier target false exports), .ok exports)
        | (next, .error failure) => (next, .error failure)

/-- **Run the factory of a module** and keep its exports. -/
def instantiate (load : String → Loader → Answer) (id : String) (m : TableModule) (l : Loader) :
    Answer :=
  match runSteps (requireBy load id m.importMap) m.steps .initial (l.enter id) with
  | (next, .ok exports) => (next.keep id exports, .ok exports)
  | (next, .error failure) =>
      (next.note (.left id none), .error { failure with within := id :: failure.within })

/-- Load a module with at most `depth` factories running at one time. -/
def loadWithin (table : Table) : Nat → String → Loader → Answer
  | 0, id, l => (l, .error ⟨[], .moduleNotFound id⟩)
  | depth + 1, id, l =>
      match l.cache.get? id with
      | some exports => (l, .ok exports)
      | none =>
          match table.get? id with
          | none => (l, .error ⟨[], .moduleNotFound id⟩)
          | some m => instantiate (loadWithin table depth) id m l

/-- **Load a module.** -/
def load (table : Table) (id : String) (l : Loader) : Answer :=
  loadWithin table (table.size + 2) id l

/-- **Run a table**: load its entry with a fresh loader. -/
def run (table : Table) : Answer :=
  load table table.entry fresh

end Loader

end ModuleBundler.Loading
