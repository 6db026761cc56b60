import ModuleBundler.FileStore.Basic
import ModuleBundler.Text.Lines

/-!
# Build errors

Every failure ends the build it happens in.  A build error names what went wrong; where an
operation on files or directories is the reason, it carries that failure as its source.

`BuildError.headline` is the error's own text, `BuildError.message` puts the source behind it, and
`BuildError.report` lists several errors, one on each line.
-/

namespace ModuleBundler

/-- **A failure that is known by its text**, with the failed operation behind it if there is
    one. -/
structure Mishap where
  text : String
  source : Option FileError
deriving DecidableEq, Repr

instance : Coe String Mishap := ⟨fun text => ⟨text, none⟩⟩

/-- **Why a build failed.** -/
inductive BuildError where
  /-- No layer of options names an entry. -/
  | missingEntry
  /-- The compiler refused the source of a module. -/
  | compile (id : Path) (reason : String)
  /-- The source of a module could not be read. -/
  | load (id : Path) (importer : Option Path) (source : FileError)
  /-- The bundle, or a directory for it, could not be written. -/
  | write (path : Path) (source : FileError)
  /-- The configuration file could not be read. -/
  | config (path : Path) (reason : String)
  /-- The build broke down on its way, with nothing to show but this text. -/
  | breakdown (text : String)
  /-- A failure of no kind of its own. -/
  | plain (mishap : Mishap)
deriving DecidableEq, Repr

/-- The errors that end a build. -/
abbrev BuildErrors := List BuildError

namespace BuildError

/-- Whether the error is a breakdown of the program. -/
def isBreakdown : BuildError → Bool
  | .breakdown _ => true
  | _ => false

/-- The error's own text. -/
def headline : BuildError → String
  | .missingEntry =>
      "Missing entry: you must supply `entry` either in the config file or with --entry"
  | .compile id reason => "Failed to compile " ++ id.text ++ ": " ++ reason
  | .load id none _ => "Could not load " ++ id.text
  | .load id (some importer) _ =>
      "Could not load " ++ id.text ++ " (imported by " ++ importer.text ++ ")"
  | .write path _ => "Failed to write " ++ path.text
  | .config path reason => "Failed to read config " ++ path.text ++ ": " ++ reason
  | .breakdown text => text
  | .plain mishap => mishap.text

/-- The failed operation behind the error, if there is one. -/
def source? : BuildError → Option FileError
  | .load _ _ source => some source
  | .write _ source => some source
  | .plain mishap => mishap.source
  | _ => none

/-- The error's text followed by its source. -/
def message (e : BuildError) : String :=
  match e.source? with
  | some source => e.headline ++ ": " ++ source.message
  | none => e.headline

/-- All errors, one on each line. -/
def report (errors : BuildErrors) : String :=
  Text.joinLines (errors.map message)

end BuildError

end ModuleBundler
