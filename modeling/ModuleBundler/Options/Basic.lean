import ModuleBundler.BuildError
import ModuleBundler.Path.Normal

/-!
# Build options

**Layers.**  Options come in layers, such as a configuration file below the flags of a command
line.  Every field of a layer may be left out, and so may the group of output fields.  `merge`
puts one layer over another, field by field: what the upper layer sets wins, and the two output
fields are merged one by one as well, so that setting one of them does not drop the other.

**Settings.**  A build needs settled values.  `OptionLayer.settle` demands an entry, makes the
working directory absolute and normal, and fills the output fields with their defaults.  The system
may fail to tell the current directory, so that is a result; it is asked for only if the working
directory is not set or is relative.
-/

namespace ModuleBundler

/-- The output fields of a layer. -/
structure OutputLayer where
  directory : Option String
  fileName : Option String
deriving DecidableEq, Repr, Inhabited

/-- **One layer of options**, each field set or not. -/
structure OptionLayer where
  entry : Option String
  cwd : Option Path
  output : Option OutputLayer
deriving DecidableEq, Repr, Inhabited

namespace OptionLayer

/-- The layer that sets nothing. -/
def empty : OptionLayer := ⟨none, none, none⟩

/-- Merge output fields: of each field, what the upper layer sets, else what the lower one does. -/
def mergeOutput : Option OutputLayer → Option OutputLayer → Option OutputLayer
  | some lower, some upper =>
      some ⟨upper.directory.or lower.directory, upper.fileName.or lower.fileName⟩
  | lower, upper => upper.or lower

/-- **Put a layer over another.** -/
def merge (lower upper : OptionLayer) : OptionLayer :=
  ⟨upper.entry.or lower.entry, upper.cwd.or lower.cwd, mergeOutput lower.output upper.output⟩

end OptionLayer

/-- **Settled options** of one build. -/
structure Settings where
  entry : String
  cwd : Path
  directory : String
  fileName : String
deriving DecidableEq, Repr, Inhabited

namespace Settings

/-- Where a bundle goes if no directory is given. -/
def defaultDirectory : String := "dist"

/-- What a bundle is called if no file name is given. -/
def defaultFileName : String := "bundle.js"

/-- The directory of the bundle, read from the working directory. -/
def outputDirectory (s : Settings) : Path :=
  s.cwd.join ⟨s.directory⟩

/-- The path of the bundle. -/
def outputFile (s : Settings) : Path :=
  s.outputDirectory.join ⟨s.fileName⟩

end Settings

/-- **The current directory**, as the system tells it or fails to tell it. -/
abbrev CurrentDirectory := Except FileError Path

namespace CurrentDirectory

instance : Coe Path CurrentDirectory := ⟨.ok⟩

/-- The error of a build that asks for the current directory and is not told. -/
def untold (cause : FileError) : BuildError :=
  .plain ⟨"Failed to get current dir", some cause⟩

/-- The current directory, for a build that asks for it. -/
def ask (current : CurrentDirectory) : Except BuildError Path :=
  current.mapError untold

/-- **Where a build works**, given the working directory that is set.  The current directory is
    asked for if none is set, or a relative one. -/
def workIn (current : CurrentDirectory) : Option Path → Except BuildError Path
  | none => current.ask
  | some cwd => if cwd.isAbsolute then .ok cwd else current.ask.map (·.join cwd)

end CurrentDirectory

/-- **Settle a layer of options** in the current directory. -/
def OptionLayer.settle (current : CurrentDirectory) (layer : OptionLayer) :
    Except BuildError Settings :=
  match layer.entry with
  | none => .error .missingEntry
  | some entry =>
      let output := layer.output.getD ⟨none, none⟩
      (current.workIn layer.cwd).map fun cwd =>
        ⟨entry, cwd.normal, output.directory.getD Settings.defaultDirectory,
          output.fileName.getD Settings.defaultFileName⟩

end ModuleBundler
