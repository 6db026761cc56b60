import ModuleBundler.Proofs.Execution.Acyclic
import ModuleBundler.Proofs.Loading.Specifiers
import ModuleBundler.Proofs.Script.Prelude

/-!
# Graphs of scripts

What a script is compiled to begins with lines that require other modules, and its list of imports
says which.  A scan makes its import map from that list.  So the import map of a module knows
exactly the specifiers that the lines in front of it require, and no factory that requires only
those is ever told that it does not know a specifier (`required_of_scan`).

**Imports inside statements** are read, but belong neither to the lines nor to the list
(`required_nested_import`).
-/

namespace ModuleBundler

namespace Execution

open Loading (Step)

/-- Factories that know the import maps of the graph know those of the table. -/
lemma Named.knowing_graphTable {name : ModuleId → String}
    {factory : ModuleId → ModuleRecord → List Step} {g : DependencyGraph} (h : Named name g)
    (hknows : ∀ id record, g.get? id = some record →
      ∀ step ∈ factory id record, ∀ specifier ∈ step.specifier?,
        specifier ∈ record.importMap.keys) :
    (graphTable name factory g).Knowing := by
  intro key m hm step hstep specifier hspecifier
  obtain ⟨id, record, hrecord, rfl, rfl⟩ := exists_get?_of_graphTable h.injective hm
  rw [OrderedMap.contains_mapValues, OrderedMap.contains_iff_mem_keys]
  exact hknows id record hrecord step hstep specifier hspecifier

end Execution

namespace Scan

open Execution (graphTable)
open Loading (Loader Step)
open Script (Program frontLines requiredBy)

variable {σ : Type} [FileStore σ]

/-- **What is required is known.**  The code of every script that is compiled begins with lines that
    require, in this order, what its list of imports says: the sources of the imports and of the
    exports of other modules that are items of the script.  Now take a scan of scripts that
    succeeds.  The import map of a module has the specifiers that the lines of its code require,
    each once, in the order in which they are first required.  And whatever the factories of its
    table do, if they require only what the lines of their modules require, no loading fails on an
    unknown specifier, whatever the loader has done before. -/
theorem required_of_scan (settings : Settings) (store : σ) (found : Scan)
    (habs : settings.cwd.isAbsolute = true)
    (hscan : scan settings store Script.compile = .ok found) :
    (∀ id source unit, Script.compile id source = .ok unit →
        ∃ p, Program.read source.toList = .ok p
          ∧ (∃ body, unit.code = String.join ((frontLines source).map (· ++ "\n")) ++ body)
          ∧ requiredBy source = unit.imports
          ∧ unit.imports = p.items.filterMap Script.Item.source?)
      ∧ (∀ id record, found.graph.get? id = some record →
          ∃ source unit, FileStore.read store id = .ok source
            ∧ Script.compile id source = .ok unit ∧ record.code = unit.code
            ∧ record.importMap.keys = (requiredBy source).eraseDups)
      ∧ ∀ factory : ModuleId → ModuleRecord → List Step,
          (∀ id record source, found.graph.get? id = some record →
            FileStore.read store id = .ok source →
              ∀ step ∈ factory id record, ∀ specifier ∈ step.specifier?,
                specifier ∈ requiredBy source) →
          ∀ l key failure,
            (Loader.load (graphTable (ModuleId.stable · settings.cwd) factory found.graph) key l).2
              = .error failure → ¬ failure.problem.IsUnknown := by
  obtain ⟨reached, hrun, -, rfl⟩ := scan_eq_ok_iff.1 hscan
  have hrecords : ∀ id record, reached.graph.get? id = some record →
      ∃ source unit, FileStore.read store id = .ok source
        ∧ Script.compile id source = .ok unit ∧ record.code = unit.code
        ∧ record.importMap.keys = (requiredBy source).eraseDups := by
    intro id record hrecord
    obtain ⟨unit, ⟨source, hread, hcompile⟩, rfl⟩ :=
      (explored_of_scan hrun).records id record hrecord
    obtain ⟨-, -, -, hrequired, -⟩ := Script.required_of_compile hcompile
    refine ⟨source, unit, hread, hcompile, rfl, ?_⟩
    rw [hrequired, OrderedMap.keys_eq_map, Discovery.toList_importMapOf, List.map_map]
    exact List.map_id _
  refine ⟨fun id source unit => Script.required_of_compile, hrecords, ?_⟩
  intro factory hfactory l key failure hfailed
  refine Loading.not_isUnknown_of_load ?_ l key hfailed
  refine (named_of_scan habs hrun).knowing_graphTable ?_
  intro id record hrecord step hstep specifier hs
  obtain ⟨source, unit, hread, -, -, hkeys⟩ := hrecords id record hrecord
  rw [hkeys, List.mem_eraseDups]
  exact hfactory id record source hrecord hread step hstep specifier hs

/-- The scripts of a project whose factories require what their lines require. -/
theorem required_of_scan_line :
    pairSettings.cwd.isAbsolute = true
      ∧ ∃ found, scan pairSettings lineStore Script.compile = .ok found
        ∧ ∀ l key failure,
            (Loader.load (graphTable (ModuleId.stable · pairSettings.cwd)
              (fun _ record => record.importMap.keys.map fun s => .require s s)
              found.graph) key l).2
              = .error failure → ¬ failure.problem.IsUnknown := by
  have habs : pairSettings.cwd.isAbsolute = true := by decide +kernel
  obtain ⟨found, hscan⟩ := exists_scan_line
  obtain ⟨-, hrecords, hknown⟩ := required_of_scan pairSettings lineStore found habs hscan
  refine ⟨habs, found, hscan, hknown _ ?_⟩
  intro id record source hrecord hread step hstep specifier hs
  obtain ⟨source', unit, hread', -, -, hkeys⟩ := hrecords id record hrecord
  obtain ⟨s, hmem, rfl⟩ := List.mem_map.1 hstep
  cases hread.symm.trans hread'
  cases hs
  rwa [hkeys, List.mem_eraseDups] at hmem

end Scan

namespace Script

/-- A block that imports a module to run it. -/
def nestedRun : Program :=
  ⟨none, [.statement (.node .block ⟨0, 17⟩ [.node (.importing []) ⟨2, 15⟩ []])]⟩

/-- **An import inside a statement** is read, and the script is compiled, but nothing is required
    and nothing is listed. -/
theorem required_nested_import :
    Program.read "\x7b import \"./a\"; \x7d".toList = .ok nestedRun
      ∧ requiredBy "\x7b import \"./a\"; \x7d" = []
      ∧ ∃ unit, compile ⟨"/m.js"⟩ "\x7b import \"./a\"; \x7d" = .ok unit ∧ unit.imports = [] := by
  have hread : Program.read "\x7b import \"./a\"; \x7d".toList = .ok nestedRun := by decide +kernel
  refine ⟨hread, ?_, nestedRun.lower "\x7b import \"./a\"; \x7d".toList, ?_, by decide +kernel⟩
  · rw [requiredBy, frontLines, hread]
    decide +kernel
  · rw [compile, hread]
    rfl

end Script

end ModuleBundler
