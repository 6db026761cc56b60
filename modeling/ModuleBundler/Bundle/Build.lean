import ModuleBundler.Bundle.Render
import ModuleBundler.Graph.Scan

/-!
# Building a bundle

`Build.generate` scans a project and renders the bundle without touching the store.
`Build.write` does the same and then writes the bundle to its file, `Settings.outputFile`.  A
failed scan leaves the store as it was.
-/

namespace ModuleBundler

/-- **What a build brings forth**: its assets, and what it warns about. -/
structure Build where
  assets : List Asset
  warnings : List String
deriving Repr, Inhabited

namespace Build

variable {σ : Type}

/-- **Build in memory.** -/
def generate [FileStore σ] (settings : Settings) (store : σ) (compile : Compiler) :
    Except BuildErrors Build := do
  let scan ← Scan.scan settings store compile
  .ok ⟨[Bundle.asset settings scan.graph], scan.warnings⟩

/-- Write assets into a directory, stopping at the first failure. -/
def writeAll [FileStore σ] (store : σ) (directory : Path) :
    List Asset → σ × Except BuildErrors Unit
  | [] => (store, .ok ())
  | a :: rest =>
      match a.write store directory with
      | (next, .ok _) => writeAll next directory rest
      | (next, .error errors) => (next, .error errors)

/-- **Build and write** the assets to the output directory. -/
def write [FileStore σ] (settings : Settings) (store : σ) (compile : Compiler) :
    σ × Except BuildErrors Build :=
  match generate settings store compile with
  | .error errors => (store, .error errors)
  | .ok build =>
      match writeAll store settings.outputDirectory build.assets with
      | (next, .ok ()) => (next, .ok build)
      | (next, .error errors) => (next, .error errors)

end Build

end ModuleBundler
