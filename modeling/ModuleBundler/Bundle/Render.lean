import ModuleBundler.Bundle.Asset
import ModuleBundler.Bundle.LoaderText
import ModuleBundler.Graph.Basic
import ModuleBundler.Graph.ModuleId
import ModuleBundler.Options.Basic
import ModuleBundler.Text.Blank
import ModuleBundler.Text.Quoted

/-!
# The text of a bundle

A bundle is one script: the loader, applied to a table of modules and to the id of the entry.
Every module of the graph has one entry in the table, in the order found.  The entry gives the
module's import map and a factory, a function around the module's code.  Comments mark where the
code begins and ends, and the first of them names the module.

All ids are written as seen from the working directory.
-/

namespace ModuleBundler.Bundle

/-- The import map of a module, as the fields of an object. -/
def renderImportMap (importMap : ImportMap) (cwd : Path) : String :=
  ", ".intercalate (importMap.toList.map fun entry =>
    Text.quoted entry.1 ++ ": " ++ Text.quoted (ModuleId.stable entry.2 cwd))

/-- The code of a module as it stands in its factory: without blanks at its end, and followed by
    a line break unless there is no code. -/
def renderCode (code : String) : String :=
  if code.toList = [] then "" else Text.trimEnd code ++ "\n"

/-- One entry of the module table. -/
def renderModule (id : ModuleId) (record : ModuleRecord) (cwd : Path) : String :=
  let name := ModuleId.stable id cwd
  Text.quoted name ++ ": \x7b\n  importMap: \x7b" ++ renderImportMap record.importMap cwd
    ++ "\x7d,\n  factory: function (require, module, exports) \x7b\n"
    ++ "//#region " ++ name ++ "\n"
    ++ renderCode record.code
    ++ "//#endregion\n  \x7d\n\x7d"

/-- The modules of a graph, in its order. -/
def renderTable (graph : DependencyGraph) (cwd : Path) : String :=
  ",\n".intercalate (graph.modules.toList.map fun entry => renderModule entry.1 entry.2 cwd)

/-- **The script** for a graph. -/
def render (graph : DependencyGraph) (cwd : Path) : String :=
  Text.joinLines
    [loaderText ++ "(\x7b",
      renderTable graph cwd,
      "\x7d, " ++ Text.quoted (ModuleId.stable graph.entry cwd) ++ ");\n"]

/-- The script as an asset under the settings' file name. -/
def asset (settings : Settings) (graph : DependencyGraph) : Asset :=
  ⟨settings.fileName, render graph settings.cwd⟩

end ModuleBundler.Bundle
