import ModuleBundler.Bundle.Build
import ModuleBundler.Text.Amount

/-!
# What a run prints

After a build the warnings are listed, then the assets with their sizes in two columns, and at the
end the time the build took.  Errors are listed one on each line.  Terminal colours are written as
escape sequences.
-/

namespace ModuleBundler.CommandLine

/-- A way to set off a text on a terminal, by the number of its escape sequence. -/
structure Paint where
  number : String

namespace Paint

/-- Errors. -/
def red : Paint := ⟨"31"⟩

/-- Success. -/
def green : Paint := ⟨"32"⟩

/-- Warnings. -/
def yellow : Paint := ⟨"33"⟩

/-- File names. -/
def cyan : Paint := ⟨"36"⟩

/-- What is of little interest. -/
def dim : Paint := ⟨"2;37"⟩

/-- The time that a build took. -/
def bold : Paint := ⟨"1;37"⟩

/-- Paint a text. -/
def apply (paint : Paint) (text : String) : String :=
  "\x1b[" ++ paint.number ++ "m" ++ text ++ "\x1b[0m"

end Paint

namespace Report

/-- A number of spaces. -/
def spaces (count : Nat) : String :=
  String.ofList (List.replicate count ' ')

/-- The largest of some numbers, and zero of none. -/
def largest (numbers : List Nat) : Nat :=
  numbers.foldl max 0

/-- The line about one asset, with its name and size brought to the widths of their columns. -/
def assetLine (directory : String) (nameWidth sizeWidth : Nat) (asset : Asset) : String :=
  let size := Text.kilobytes asset.byteCount
  Paint.dim.apply (directory ++ "/") ++ Paint.cyan.apply asset.fileName
    ++ spaces (nameWidth - asset.fileName.utf8ByteSize) ++ " "
    ++ Paint.dim.apply "bundle │ size: "
    ++ spaces (sizeWidth - size.utf8ByteSize) ++ size ++ " kB\n"

/-- The lines about all assets. -/
def assetLines (directory : String) (assets : List Asset) : String :=
  let nameWidth := largest (assets.map (·.fileName.utf8ByteSize))
  let sizeWidth := largest (assets.map fun a => (Text.kilobytes a.byteCount).utf8ByteSize)
  String.join (assets.map (assetLine directory nameWidth sizeWidth))

/-- The line for a warning. -/
def warningLine (warning : String) : String :=
  Paint.yellow.apply "Warning:" ++ " " ++ warning ++ "\n"

/-- The line for an error. -/
def errorLine (e : BuildError) : String :=
  Paint.red.apply "Error:" ++ " " ++ e.message ++ "\n"

/-- **The report on a build** that took a given time. -/
def build (settings : Settings) (b : Build) (elapsed : String) : String :=
  String.join (b.warnings.map warningLine)
    ++ assetLines settings.directory b.assets
    ++ "\n" ++ Paint.green.apply "✔" ++ " Finished in " ++ elapsed ++ "\n"

/-- **The report on errors.** -/
def errors (es : BuildErrors) : String :=
  String.join (es.map errorLine)

end Report

end ModuleBundler.CommandLine
