import ModuleBundler.Graph.Discovery
import ModuleBundler.Options.Basic

/-!
# Scanning a project

A scan resolves the entry of the settings, discovers the graph below it, and turns every cycle
that was noted into a warning.
-/

namespace ModuleBundler

/-- **What a scan found.** -/
structure Scan where
  graph : DependencyGraph
  warnings : List String

namespace Scan

variable {σ : Type}

/-- The warning for a cycle. -/
def cycleWarning (cwd : Path) (cycle : List ModuleId) : String :=
  "Circular dependency: " ++ " -> ".intercalate (cycle.map (ModuleId.stable · cwd)) ++ "."

/-- The resolver of a build. -/
def resolver (settings : Settings) (store : σ) : Resolver σ :=
  ⟨settings.cwd, store⟩

/-- The module that a build begins with. -/
def entry [FileStore σ] (settings : Settings) (store : σ) : ModuleId :=
  (resolver settings store).resolveId none settings.entry

/-- The discovery that a scan rests on.  One that never ends has no outcome, and counts as one
    that failed without an error to report. -/
def discovery [FileStore σ] (settings : Settings) (store : σ) (compile : Compiler) :
    Discovery.Outcome :=
  (Discovery.discover (resolver settings store) compile (entry settings store)).getD
    ⟨Discovery.start (entry settings store), some []⟩

/-- What a discovery amounts to. -/
def ofOutcome (cwd : Path) (outcome : Discovery.Outcome) : Except BuildErrors Scan :=
  match outcome.errors with
  | some errors => .error errors
  | none => .ok ⟨outcome.reached.graph, outcome.reached.cycles.map (cycleWarning cwd)⟩

/-- **Scan** a project. -/
def scan [FileStore σ] (settings : Settings) (store : σ) (compile : Compiler) :
    Except BuildErrors Scan :=
  ofOutcome settings.cwd (discovery settings store compile)

end Scan

end ModuleBundler
