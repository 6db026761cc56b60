import ModuleBundler.Graph.ModuleId
import ModuleBundler.FileStore.Basic

/-!
# Resolving specifiers

A specifier is a path as written in a source.  It is read from the directory of the module that
uses it, or from the working directory if it names the entry, and brought into normal form.  If
no file is there, the same path with `.js` at its end is tried.  A path that is no file in either
spelling is passed on as it is: reading it is what will fail.
-/

namespace ModuleBundler

universe u

/-- **A resolver**: the working directory, and the files that are there. -/
structure Resolver (σ : Type u) where
  cwd : Path
  store : σ

namespace Resolver

variable {σ : Type}

/-- The ending that a specifier may leave out. -/
def scriptEnding : String := ".js"

/-- A path with that ending behind it. -/
def withEnding (p : Path) : Path :=
  ⟨p.text ++ scriptEnding⟩

/-- The absolute normal path that a specifier points at, seen from a directory. -/
def join (r : Resolver σ) (directory : Path) (specifier : String) : Path :=
  let joined := directory.join ⟨specifier⟩
  if joined.isAbsolute then joined.normal else (r.cwd.join joined).normal

/-- The module at a path: the path itself if it is a file, else the path with the script ending
    if that is one, else the path itself. -/
def resolve [FileStore σ] (r : Resolver σ) (p : Path) : ModuleId :=
  if FileStore.isFile r.store p then p
  else if FileStore.isFile r.store (withEnding p) then withEnding p
  else p

/-- **The module that a specifier stands for**, seen from the module that uses it. -/
def resolveId [FileStore σ] (r : Resolver σ) (importer : Option ModuleId) (specifier : String) :
    ModuleId :=
  r.resolve (r.join ((importer.map ModuleId.directory).getD r.cwd) specifier)

end Resolver

end ModuleBundler
