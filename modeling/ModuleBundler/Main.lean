import ModuleBundler.CommandLine.Run
import ModuleBundler.FileStore.Tree
import ModuleBundler.Script.Compile

/-!
# The program

The program takes a copy of the files that a run can read, runs the command line on it, and then
writes down what the run has changed.  What it does beyond that is to print.

If the system does not tell the current directory, the program still finds the files of relative
paths by way of `/proc/self/cwd`.
-/

namespace ModuleBundler.Disk

/-- Put a file or directory of the disk into a tree. -/
def place (tree : DirectoryTree) (text : String) (content : Option ByteArray) : DirectoryTree :=
  match content with
  | none => (Asset.ensureDirectory tree ⟨text⟩).1
  | some bytes =>
      let parent := (Path.parent? ⟨text⟩).getD ⟨"/"⟩
      let tree := (Asset.ensureDirectory tree parent).1
      (tree.write ⟨text⟩ bytes).toOption.getD tree

/-- The failure of the system to tell the current directory. -/
def failure : IO.Error → FileError
  | .noFileOrDirectory .. => .noEntry
  | e => .described (toString e)

/-- The place of the run. -/
def workingPlace : IO CommandLine.WorkingPlace := do
  try
    let current : Path := ⟨(← IO.currentDir).toString⟩
    return current
  catch e => return ⟨⟨"/proc/self/cwd"⟩, .error (failure e)⟩

/-- Copy the file that a path leads to from a directory, or everything below it, into a tree.  Links
    to directories are not followed. -/
def copy (base : Path) (tree : DirectoryTree) (p : Path) : IO DirectoryTree := do
  let root := System.mkFilePath [base.text] / p.text
  if ← root.isDir then
    let mut tree := place tree root.toString none
    for entry in ← root.walkDir fun d => return (← d.symlinkMetadata).type != .symlink do
      if ← entry.isDir then tree := place tree entry.toString none
      else tree := place tree entry.toString (some (← IO.FS.readBinFile entry))
    return tree
  else if ← root.pathExists then
    return place tree root.toString (some (← IO.FS.readBinFile root))
  else return tree

/-- The files that a run can read: its configuration file, and what is below the directory that it
    works in. -/
def surroundings (origin : CommandLine.WorkingPlace) (arguments : List String) :
    IO DirectoryTree := do
  match CommandLine.Arguments.read? arguments with
  | none => return .empty
  | some a =>
      let start := place .empty origin.base.text none
      let tree ← match a.config? with
        | some config => copy origin.base start config
        | none => pure start
      match CommandLine.settings origin tree a with
      | .error _ => return tree
      | .ok settings => copy origin.base tree settings.cwd

/-- Write a file, and the directories on the way to it, to the disk. -/
def write (p : Path) (bytes : ByteArray) : IO Unit := do
  match p.parent? with
  | some parent => IO.FS.createDirAll ⟨parent.text⟩
  | none => pure ()
  IO.FS.writeBinFile ⟨p.text⟩ bytes

end ModuleBundler.Disk

open ModuleBundler in
/-- **Run the program.** -/
def main (arguments : List String) : IO UInt32 := do
  let workingPlace ← Disk.workingPlace
  let before ← Disk.surroundings workingPlace arguments
  let begun ← IO.monoNanosNow
  let (after, outcome) := CommandLine.run workingPlace before Script.compile arguments
  for (p, bytes) in before.changes after do
    Disk.write p bytes
  let elapsed := Text.milliseconds ((← IO.monoNanosNow) - begun) ++ " ms"
  IO.print (outcome.output (CommandLine.Paint.bold.apply elapsed))
  IO.eprint outcome.errorOutput
  return outcome.exitCode.toUInt32
