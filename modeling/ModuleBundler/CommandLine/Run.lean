import ModuleBundler.CommandLine.Arguments
import ModuleBundler.CommandLine.Report
import ModuleBundler.Config.Options

/-!
# A run of the command line

A run reads its arguments, layers the flags over the configuration file, settles the options,
and builds and writes the bundle.  Its outcome says how far it came; the exit code and what is
printed follow from that.  Arguments that cannot be read end it before anything is done.

A run has a place from which it reads relative paths, even if the system does not tell it where
that is (`WorkingPlace`).
-/

namespace ModuleBundler.CommandLine

/-- **The outcome of a run.** -/
inductive Outcome where
  /-- The arguments cannot be read. -/
  | refused
  /-- The build was not begun, or it failed. -/
  | failed (errors : BuildErrors)
  /-- A bundle was written; `silent` says that nothing is to be printed about it. -/
  | built (settings : Settings) (build : Build) (silent : Bool)

namespace Outcome

/-- The exit code; a breakdown has one of its own. -/
def exitCode : Outcome → Nat
  | .refused => 2
  | .failed errors => if errors.any BuildError.isBreakdown then 101 else 1
  | .built _ _ _ => 0

/-- What is printed, given the text for the time that the build took. -/
def output (elapsed : String) : Outcome → String
  | .built settings build false => Report.build settings build elapsed
  | _ => ""

/-- What is printed about errors. -/
def errorOutput : Outcome → String
  | .failed errors => Report.errors errors
  | _ => ""

end Outcome

/-- **Where a run takes place.** -/
structure WorkingPlace where
  /-- Where the run finds the files of relative paths. -/
  base : Path
  /-- What the system tells of the current directory. -/
  told : CurrentDirectory

instance : Coe Path WorkingPlace := ⟨fun current => ⟨current, current⟩⟩

variable {σ : Type}

/-- The settings that arguments amount to. -/
def settings [FileStore σ] (place : WorkingPlace) (store : σ) (a : Arguments) :
    Except BuildErrors Settings := do
  let layer ← Config.resolve place.base store a.config? a.layer
  match layer.settle place.told with
  | .ok settings => .ok settings
  | .error e => .error [e]

/-- **Run the command line.** -/
def run [FileStore σ] (place : WorkingPlace) (store : σ) (compile : Compiler)
    (arguments : List String) : σ × Outcome :=
  match Arguments.read? arguments with
  | none => (store, .refused)
  | some a =>
      match settings place store a with
      | .error errors => (store, .failed errors)
      | .ok settings =>
          match Build.write settings store compile with
          | (next, .error errors) => (next, .failed errors)
          | (next, .ok build) => (next, .built settings build a.silent)

end ModuleBundler.CommandLine
