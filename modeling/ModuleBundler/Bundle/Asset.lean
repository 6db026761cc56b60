import ModuleBundler.BuildError

/-!
# Assets and their directory

An asset is a file that a build brings forth.  Writing one first makes sure of its directory:
the directories on the way are created where nothing is there, outermost first, and then the
whole content is written at once.

A step that fails ends the writing.  Directories that were created before it stay, so every
function here gives back the store along with its answer.
-/

namespace ModuleBundler

/-- **A file to be written.** -/
structure Asset where
  fileName : String
  content : String
deriving DecidableEq, Repr, Inhabited

/-- How many bytes the content takes. -/
def Asset.byteCount (a : Asset) : Nat :=
  a.content.utf8ByteSize

namespace Asset

variable {σ : Type}

/-- How a step is written at the end of a path. -/
def stepText : Path.Component → String
  | .root => "/"
  | .here => "."
  | .up => ".."
  | .name text => text

/-- The paths that a list of steps leads through, the root itself left out. -/
def stations (current : Path) : List Path.Component → List Path
  | [] => []
  | .root :: rest => stations (current.join ⟨"/"⟩) rest
  | step :: rest =>
      let next := current.join ⟨stepText step⟩
      next :: stations next rest

/-- Create those of the given directories where nothing is there, in order. -/
def createMissing [FileStore σ] (store : σ) : List Path → σ × Option FileError
  | [] => (store, none)
  | p :: rest =>
      if FileStore.present store p then createMissing store rest
      else match FileStore.createDirectory store p with
        | .ok next => createMissing next rest
        | .error cause => (store, some cause)

/-- **Make sure of a directory** and of everything on the way to it. -/
def ensureDirectory [FileStore σ] (store : σ) (directory : Path) : σ × Option FileError :=
  createMissing store (stations ⟨""⟩ directory.components)

/-- **Write an asset** into a directory; the answer is the path of the file. -/
def write [FileStore σ] (store : σ) (directory : Path) (a : Asset) :
    σ × Except BuildErrors Path :=
  match ensureDirectory store directory with
  | (next, some cause) => (next, .error [.write directory cause])
  | (next, none) =>
      let path := directory.join ⟨a.fileName⟩
      match FileStore.write next path a.content.toUTF8 with
      | .ok final => (final, .ok path)
      | .error cause => (next, .error [.write path cause])

end Asset

end ModuleBundler
