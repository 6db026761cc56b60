import ModuleBundler.Bundle.Build
import ModuleBundler.Proofs.Execution.ScannedGraph
import ModuleBundler.Proofs.Loading.Closed
import ModuleBundler.Proofs.Options.Layers

/-!
# What a bundle says about its modules

**The manifest** of a graph is its table as one reads it in the bundle: a row for each module, with
the key of the module, what its specifiers lead to and its code, and the key that is to be loaded
first.  A bundle is the text of the manifest of its graph (`render_eq_text`).

**Closed manifests.**  The keys of a scanned graph are distinct, because its ids are canonical, and
everything a module imports is in the graph.  So every import leads to one key, the entry is the
first of them, and a loader over the table never looks for a module in vain
(`generate_manifest_closed`).
-/

namespace ModuleBundler.Bundle

/-- **One row** of a table: a module under its key. -/
structure Row where
  key : String
  /-- The specifiers of the module, each with the key that it leads to. -/
  imports : List (String × String)
  code : String

/-- **A table as it is written**, with the key to begin with. -/
structure Manifest where
  rows : List Row
  entry : String

/-- How a row is written. -/
def Row.text (row : Row) : String :=
  Text.quoted row.key ++ ": \x7b\n  importMap: \x7b"
    ++ ", ".intercalate (row.imports.map fun e => Text.quoted e.1 ++ ": " ++ Text.quoted e.2)
    ++ "\x7d,\n  factory: function (require, module, exports) \x7b\n"
    ++ "//#region " ++ row.key ++ "\n"
    ++ renderCode row.code
    ++ "//#endregion\n  \x7d\n\x7d"

namespace Manifest

/-- The keys of the rows. -/
def keys (m : Manifest) : List String := m.rows.map Row.key

/-- How the whole table is written, behind the loader that it is given to. -/
def text (m : Manifest) : String :=
  Text.joinLines
    [loaderText ++ "(\x7b", ",\n".intercalate (m.rows.map Row.text),
      "\x7d, " ++ Text.quoted m.entry ++ ");\n"]

/-- The table that a loader gets, if these are the factories of the rows. -/
def table (factory : Row → List Loading.Step) (m : Manifest) : Loading.Table :=
  ⟨m.entry, .ofList (m.rows.map fun row => (row.key, ⟨.ofList row.imports, factory row⟩))⟩

end Manifest

/-- The row of a module of a graph. -/
def row (cwd : Path) (id : ModuleId) (record : ModuleRecord) : Row :=
  ⟨ModuleId.stable id cwd,
    record.importMap.toList.map fun e => (e.1, ModuleId.stable e.2 cwd), record.code⟩

/-- **The manifest of a graph.** -/
def manifest (g : DependencyGraph) (cwd : Path) : Manifest :=
  ⟨g.modules.toList.map fun e => row cwd e.1 e.2, ModuleId.stable g.entry cwd⟩

variable {cwd : Path}

/-- A module is rendered as the text of its row. -/
lemma renderModule_eq_text (id : ModuleId) (record : ModuleRecord) :
    renderModule id record cwd = (row cwd id record).text := by
  rw [renderModule, renderImportMap, Row.text, row, List.map_map]
  rfl

/-- **A bundle is the text of the manifest of its graph.** -/
theorem render_eq_text (g : DependencyGraph) (cwd : Path) :
    render g cwd = (manifest g cwd).text := by
  have hrows : (g.modules.toList.map fun e => renderModule e.1 e.2 cwd)
      = (manifest g cwd).rows.map Row.text := by
    rw [manifest, List.map_map]
    exact List.map_congr_left fun e _ => renderModule_eq_text e.1 e.2
  rw [render, renderTable, hrows]
  rfl

lemma keys_manifest (g : DependencyGraph) (cwd : Path) :
    (manifest g cwd).keys = g.ids.map (ModuleId.stable · cwd) := by
  rw [Manifest.keys, manifest, List.map_map, DependencyGraph.ids, OrderedMap.keys_eq_map,
    List.map_map]
  rfl

namespace Manifest

variable {m : Manifest} {factory : Row → List Loading.Step}

/-- Distinct keys are the keys of the loader's table. -/
lemma keys_table (hnodup : m.keys.Nodup) : (m.table factory).modules.keys = m.keys := by
  rw [table, OrderedMap.keys_eq_map, OrderedMap.toList_ofList, List.map_map]
  · rfl
  · rw [List.map_map]
    exact hnodup

/-- If the imports of all rows lead to keys, the loader's table is closed. -/
lemma closed_table (hnodup : m.keys.Nodup)
    (hspecifiers : ∀ row ∈ m.rows, (row.imports.map Prod.fst).Nodup)
    (htargets : ∀ row ∈ m.rows, ∀ e ∈ row.imports, e.2 ∈ m.keys) : (m.table factory).Closed := by
  intro id module hmodule specifier target htarget
  rw [Loading.Table.get?, OrderedMap.get?_eq_some_iff_mem, table, OrderedMap.toList_ofList]
    at hmodule
  · obtain ⟨row, hrow, heq⟩ := List.mem_map.1 hmodule
    cases heq
    rw [OrderedMap.get?_eq_some_iff_mem, OrderedMap.toList_ofList (hspecifiers row hrow)] at htarget
    rw [keys_table hnodup]
    exact htargets row hrow _ htarget
  · rw [List.map_map]
    exact hnodup

end Manifest

/-- The specifiers of a row are distinct. -/
lemma nodup_specifiers (id : ModuleId) (record : ModuleRecord) :
    ((row cwd id record).imports.map Prod.fst).Nodup := by
  have hfst : (row cwd id record).imports.map Prod.fst = record.importMap.keys := by
    rw [row, List.map_map, OrderedMap.keys_eq_map]
    rfl
  rw [hfst]
  exact record.importMap.keys_nodup

end ModuleBundler.Bundle

namespace ModuleBundler

open Discovery (Explored)

namespace Build

open Scan (resolver)

variable {σ : Type} [FileStore σ]

/-- What a build that succeeds consists of. -/
lemma exists_scan_of_generate {settings : Settings} {store : σ} {compile : Compiler}
    {build : Build} (h : generate settings store compile = .ok build) :
    ∃ found, Scan.scan settings store compile = .ok found
      ∧ build = ⟨[Bundle.asset settings found.graph], found.warnings⟩ := by
  rw [generate] at h
  cases hscan : Scan.scan settings store compile with
  | error errors =>
      rw [hscan] at h
      cases h
  | ok found =>
      rw [hscan] at h
      cases h
      exact ⟨found, rfl, rfl⟩

/-- **The table of a bundle is closed, and its keys are distinct.**  Take options that settle, and
    a build with them that succeeds.  The bundle is the text of a manifest.  Its keys are the
    stable ids of the modules in the order found, no two of them are the same, and the entry is
    the first.  Whatever a module imports has a key that occurs once, and that is the key of the
    module that the specifier stands for.  And whatever the factories do, and whatever a loader
    has done before, loading one of the keys does not fail for want of a module. -/
theorem generate_manifest_closed (current : CurrentDirectory) (layer : OptionLayer)
    (settings : Settings) (store : σ) (compile : Compiler) (build : Build)
    (habs : current.Absolute) (hsettle : layer.settle current = .ok settings)
    (hgenerate : generate settings store compile = .ok build) :
    ∃ found, Scan.scan settings store compile = .ok found ∧
      let manifest := Bundle.manifest found.graph settings.cwd
      build.assets = [⟨settings.fileName, manifest.text⟩]
        ∧ manifest.keys = found.graph.ids.map (ModuleId.stable · settings.cwd)
        ∧ manifest.keys.Nodup
        ∧ manifest.keys.head? = some manifest.entry
        ∧ (∀ id record, found.graph.get? id = some record →
            Bundle.row settings.cwd id record ∈ manifest.rows
              ∧ ∀ e ∈ (Bundle.row settings.cwd id record).imports,
                  manifest.keys.count e.2 = 1
                    ∧ e.2 = ModuleId.stable ((resolver settings store).resolveId (some id) e.1)
                        settings.cwd)
        ∧ ∀ factory l, ∀ key ∈ manifest.keys, ∀ failure,
            (Loading.Loader.load (manifest.table factory) key l).2 = .error failure →
              ¬ failure.problem.IsMissing := by
  have hcwd := Path.isAbsolute_of_canonical (OptionLayer.isCanonical_cwd habs hsettle)
  obtain ⟨found, hscan, rfl⟩ := exists_scan_of_generate hgenerate
  obtain ⟨reached, hrun, -, rfl⟩ := Scan.scan_eq_ok_iff.1 hscan
  have hexplored := Scan.explored_of_scan hrun
  have hkeys := Bundle.keys_manifest reached.graph settings.cwd
  have hnodup : (Bundle.manifest reached.graph settings.cwd).keys.Nodup := by
    rw [hkeys]
    exact List.Nodup.map_on (fun a ha b hb heq => Scan.stable_injective_of_reachable hcwd
      ((hexplored.mem_ids a).1 ha) ((hexplored.mem_ids b).1 hb) heq) reached.graph.ids_nodup
  have hmem : ∀ id ∈ reached.graph.ids,
      ModuleId.stable id settings.cwd ∈ (Bundle.manifest reached.graph settings.cwd).keys := by
    intro id hid
    rw [hkeys]
    exact List.mem_map.2 ⟨id, hid, rfl⟩
  have himports : ∀ id record, reached.graph.get? id = some record →
      ∀ e ∈ (Bundle.row settings.cwd id record).imports,
        e.2 ∈ (Bundle.manifest reached.graph settings.cwd).keys
          ∧ e.2 = ModuleId.stable ((resolver settings store).resolveId (some id) e.1)
              settings.cwd := by
    intro id record hrecord e he
    obtain ⟨⟨specifier, target⟩, hentry, rfl⟩ := List.mem_map.1 he
    have hvalue : target ∈ record.importMap.values := List.mem_map.2 ⟨_, hentry, rfl⟩
    refine ⟨hmem target (hexplored.targets id record hrecord target hvalue), ?_⟩
    obtain ⟨unit, -, rfl⟩ := hexplored.records id record hrecord
    have hget := (OrderedMap.get?_eq_some_iff_mem _ _ _).2 hentry
    rw [(Discovery.get?_importMapOf (resolver settings store) hget).2]
  refine ⟨_, hscan, ?_, hkeys, hnodup, ?_, ?_, ?_⟩
  · rw [← Bundle.render_eq_text]
    rfl
  · rw [hkeys, List.head?_map, Discovery.head?_ids_of_discover _ _ hrun rfl,
      ← hexplored.graph_entry]
    rfl
  · intro id record hrecord
    have hrow : (id, record) ∈ reached.graph.modules.toList :=
      (OrderedMap.get?_eq_some_iff_mem _ _ _).1 hrecord
    refine ⟨List.mem_map.2 ⟨_, hrow, rfl⟩, fun e he => ?_⟩
    obtain ⟨hkey, htarget⟩ := himports id record hrecord e he
    exact ⟨List.count_eq_one_of_mem hnodup hkey, htarget⟩
  · intro factory l key hkey failure hfailed
    refine Loading.not_isMissing_of_load (Bundle.Manifest.closed_table hnodup ?_ ?_) l ?_ hfailed
    · intro row hrow
      obtain ⟨⟨id, record⟩, -, rfl⟩ := List.mem_map.1 hrow
      exact Bundle.nodup_specifiers id record
    · intro row hrow e he
      obtain ⟨⟨id, record⟩, hentry, rfl⟩ := List.mem_map.1 hrow
      exact (himports id record ((OrderedMap.get?_eq_some_iff_mem _ _ _).2 hentry) e he).1
    · rwa [Bundle.Manifest.keys_table hnodup]

/-- The bundle of two modules that import each other has their two keys, the entry first. -/
theorem generate_manifest_closed_pair :
    CurrentDirectory.Absolute (.ok ⟨"/p"⟩)
      ∧ OptionLayer.settle (.ok ⟨"/p"⟩) ⟨some "a", none, none⟩ = .ok Scan.pairSettings
      ∧ ∃ build, generate Scan.pairSettings Scan.pairStore Scan.compileSpecifier = .ok build
        ∧ ∃ manifest : Bundle.Manifest, build.assets = [⟨"bundle.js", manifest.text⟩]
          ∧ manifest.keys.Nodup ∧ manifest.keys.head? = some manifest.entry
          ∧ ∀ key, key ∈ manifest.keys ↔ key = "a.js" ∨ key = "b.js" := by
  have habs : CurrentDirectory.Absolute (.ok ⟨"/p"⟩) := by
    rintro here ⟨⟩
    decide +kernel
  have hsettle : OptionLayer.settle (.ok ⟨"/p"⟩) ⟨some "a", none, none⟩
      = .ok Scan.pairSettings := by
    decide +kernel
  obtain ⟨found, hscan⟩ := (Scan.exists_scan_iff Scan.pairSettings Scan.pairStore
    Scan.compileSpecifier (by decide +kernel)).2 fun id hid => by
      rcases (Scan.reachable_pair_iff id).1 hid with rfl | rfl
      · exact ⟨_, Scan.yields_pair_a⟩
      · exact ⟨_, Scan.yields_pair_b⟩
  have hids : ∀ id, id ∈ found.graph.ids ↔ id = ⟨"/p/a.js"⟩ ∨ id = ⟨"/p/b.js"⟩ := by
    obtain ⟨reached, hrun, -, rfl⟩ := Scan.scan_eq_ok_iff.1 hscan
    exact fun id => ((Scan.explored_of_scan hrun).mem_ids id).trans (Scan.reachable_pair_iff id)
  have hgenerate : generate Scan.pairSettings Scan.pairStore Scan.compileSpecifier
      = .ok ⟨[Bundle.asset Scan.pairSettings found.graph], found.warnings⟩ := by
    rw [generate, hscan]
    rfl
  obtain ⟨found', hscan', hassets, hkeys, hnodup, hhead, -⟩ :=
    generate_manifest_closed (.ok ⟨"/p"⟩) ⟨some "a", none, none⟩ Scan.pairSettings Scan.pairStore
      Scan.compileSpecifier _ habs hsettle hgenerate
  rw [hscan] at hscan'
  cases hscan'
  refine ⟨habs, hsettle, _, hgenerate, _, hassets, hnodup, hhead, fun key => ?_⟩
  have ha : ModuleId.stable ⟨"/p/a.js"⟩ Scan.pairSettings.cwd = "a.js" := by decide +kernel
  have hb : ModuleId.stable ⟨"/p/b.js"⟩ Scan.pairSettings.cwd = "b.js" := by decide +kernel
  rw [hkeys, List.mem_map]
  constructor
  · rintro ⟨id, hid, rfl⟩
    rcases (hids id).1 hid with rfl | rfl
    · exact .inl ha
    · exact .inr hb
  · rintro (rfl | rfl)
    · exact ⟨_, (hids _).2 (.inl rfl), ha⟩
    · exact ⟨_, (hids _).2 (.inr rfl), hb⟩

end Build

end ModuleBundler
