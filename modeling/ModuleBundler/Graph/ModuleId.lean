import ModuleBundler.Compiler
import ModuleBundler.Path.Normal

/-!
# Where a module lives

The id of a module is the path of its source.  Relative specifiers in the module are read from
its directory.  In a bundle the id is written as seen from the working directory, so that the
bundle does not tell where on a disk the project was built.
-/

namespace ModuleBundler.ModuleId

/-- The directory that relative specifiers are read from. -/
def directory (id : ModuleId) : Path :=
  id.parent?.getD ⟨""⟩

/-- **The stable id**: an absolute id as seen from the working directory, any other id as it
    is. -/
def stable (id : ModuleId) (cwd : Path) : String :=
  if Path.isAbsolute id then (Path.relativeTo id cwd).text else Path.text id

end ModuleBundler.ModuleId
