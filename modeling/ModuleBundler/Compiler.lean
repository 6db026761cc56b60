import ModuleBundler.BuildError
import ModuleBundler.Text.Blank
import ModuleBundler.Text.Lines

/-!
# Compilers

A compiler takes the source of one module and gives back the code to run for it, together with the
specifiers of the modules it asks for.  The build treats it as a parameter: everything about
finding modules, ordering them and putting them into a bundle holds for every compiler.

**Line scripts.**  `LineScript.compile` is the smallest useful compiler.  It leaves the source as
it is, and every line that reads `import` followed by a space asks for the module named by the
rest of the line.  A source with the words `syntax error` in it is refused.
-/

namespace ModuleBundler

/-- A module is known by the path that its source was found at. -/
abbrev ModuleId := Path

/-- **A compiled module**: the code of its body, and the specifiers it asks for in the order of
    the source, repetitions included. -/
structure CompiledModule where
  code : String
  imports : List String
deriving DecidableEq, Repr, Inhabited

/-- **A compiler** answers a module's id and source with a compiled module or with errors. -/
abbrev Compiler := ModuleId → String → Except BuildErrors CompiledModule

namespace LineScript

/-- The specifier that a line asks for, if it begins with `import`. -/
def request? (line : String) : Option String :=
  (Text.after? "import ".toList (Text.trim line).toList).map String.ofList

/-- The compiler of line scripts. -/
def compile : Compiler := fun id source =>
  if Text.occursIn "syntax error".toList source.toList then
    .error [.compile id "Unexpected token"]
  else .ok ⟨source, (Text.lines source).filterMap request?⟩

end LineScript

end ModuleBundler
