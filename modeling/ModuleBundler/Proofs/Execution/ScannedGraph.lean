import ModuleBundler.Proofs.Execution.Lockstep

/-!
# Running a scanned graph

A scan finds out about a project what running it will show.  Turn the scanned graph into a table
whose factories first require all that their modules import, and run it: the factories are entered
in the order in which the scan found the modules, and the cycles that the scan reports are the
places where a requirement is answered with a stand-in.

What makes the table fit is that the stable ids of a graph are distinct, because the ids are
canonical.
-/

namespace ModuleBundler.Scan

open Discovery (Explored Reachable Yields)
open Execution (ClosesCycle Staging graphTable isQuiet replies reply requiring)
open Loading (Loader Step enterings)

/-- **The table of a scanned graph**: modules under their stable ids, whose factories require all
    their imports and then take further steps. -/
def requiringTable (cwd : Path) (tail : ModuleId → List Step) (found : Scan) : Loading.Table :=
  graphTable (ModuleId.stable · cwd)
    (fun id record => requiring record.importMap.keys (tail id)) found.graph

variable {σ : Type} [FileStore σ]

/-- Stable ids of reachable modules are distinct. -/
lemma stable_injective_of_reachable {settings : Settings} {store : σ} {compile : Compiler}
    (habs : settings.cwd.isAbsolute = true) {a b : ModuleId}
    (ha : Reachable (resolver settings store) compile (entry settings store) a)
    (hb : Reachable (resolver settings store) compile (entry settings store) b)
    (h : ModuleId.stable a settings.cwd = ModuleId.stable b settings.cwd) : a = b :=
  ModuleId.stable_injective settings.cwd (isCanonical_of_reachable habs ha)
    (isCanonical_of_reachable habs hb) h

/-- The table of a graph that was explored, staged for loading. -/
def staging (settings : Settings) (store : σ) (compile : Compiler)
    (tail : ModuleId → List Step) (habs : settings.cwd.isAbsolute = true)
    (htail : ∀ id, ∀ step ∈ tail id, isQuiet step = true) {reached : Discovery}
    (h : Explored (resolver settings store) compile (entry settings store) reached)
    (warnings : List String) : Staging σ where
  resolver := resolver settings store
  compile := compile
  entry := entry settings store
  name := (ModuleId.stable · settings.cwd)
  tail := tail
  table := requiringTable settings.cwd tail ⟨reached.graph, warnings⟩
  injective ha hb heq := stable_injective_of_reachable habs ha hb heq
  quiet := htail
  get? := by
    intro id unit hid hunit
    obtain ⟨record, hrecord⟩ := DependencyGraph.exists_get?_of_mem_ids ((h.mem_ids id).2 hid)
    obtain ⟨unit', hunit', rfl⟩ := h.records id record hrecord
    cases hunit.unique hunit'
    have hname : ∀ a ∈ reached.graph.ids, ∀ b ∈ reached.graph.ids,
        ModuleId.stable a settings.cwd = ModuleId.stable b settings.cwd → a = b :=
      fun a ha b hb => stable_injective_of_reachable habs ((h.mem_ids a).1 ha) ((h.mem_ids b).1 hb)
    exact Execution.get?_graphTable hname hrecord

/-- **Running follows the scan.**  Take the graph of a scan that succeeds, and factories that
    require all that their modules import, in the order of the import map, and then neither
    require anything nor fail.  The run returns.  It enters the factories in the order in which
    the scan found the modules, each once.  Every module gets an answer for each of its imports, in
    their order: a stand-in if the scan noted a cycle that ends with this import, and otherwise the
    exports that the target has in the cache. -/
theorem run_requiringTable (settings : Settings) (store : σ) (compile : Compiler)
    (tail : ModuleId → List Step) (found : Scan) (habs : settings.cwd.isAbsolute = true)
    (htail : ∀ id, ∀ step ∈ tail id, isQuiet step = true)
    (hscan : scan settings store compile = .ok found) :
    let cycles := (discovery settings store compile).reached.cycles
    found.warnings = cycles.map (cycleWarning settings.cwd)
      ∧ ∃ l exports, Loader.run (requiringTable settings.cwd tail found) = (l, .ok exports)
        ∧ enterings l = found.graph.ids.map (ModuleId.stable · settings.cwd)
        ∧ (enterings l).Nodup
        ∧ ∀ u record, found.graph.get? u = some record →
            replies (ModuleId.stable u settings.cwd) l
                = record.importMap.toList.map (reply (ModuleId.stable · settings.cwd) cycles l u)
              ∧ ∀ e ∈ record.importMap.toList, ¬ ClosesCycle cycles u e.2 →
                  ∃ own, l.cache.get? (ModuleId.stable e.2 settings.cwd) = some own := by
  obtain ⟨reached, hrun, hdiscovery, rfl⟩ := scan_eq_ok_iff.1 hscan
  have hexplored := explored_of_scan hrun
  let S := staging settings store compile tail habs htail hexplored
    (reached.cycles.map (cycleWarning settings.cwd))
  obtain ⟨l, exports, hleads, hagree, hopened⟩ := Staging.exists_loading (S := S) hrun rfl
  have hclosed : reached.opened = [] := hopened
  have hentry : S.table.entry = S.name S.entry := congrArg S.name hexplored.graph_entry
  have hload : Loader.load S.table (S.name S.entry) .fresh = (l, .ok exports) :=
    (Loading.leads_load S.table (S.name S.entry) .fresh).unique hleads
  have hnodup : (reached.graph.ids.map S.name).Nodup :=
    List.Nodup.map_on (fun a ha b hb heq => S.injective (hagree.reachable a ha)
      (hagree.reachable b hb) heq) reached.graph.ids_nodup
  rw [hdiscovery]
  refine ⟨rfl, l, exports, ?_, hagree.entered, ?_, ?_⟩
  · rw [← hload, ← hentry]
    rfl
  · rw [hagree.entered]
    exact hnodup
  · intro u record hrecord
    obtain ⟨unit, hunit, rfl⟩ := hexplored.records u record hrecord
    have hanswered := hagree.closed u unit (DependencyGraph.mem_ids_of_get? hrecord)
      (by simp [hclosed]) hunit
    exact ⟨hanswered.replies, hanswered.ready⟩

/-- Two modules that import each other are run to the end, each of them once. -/
theorem run_requiringTable_pair :
    pairSettings.cwd.isAbsolute = true
      ∧ (∀ step ∈ [Step.publish "ready" (.bool true)], isQuiet step = true)
      ∧ ∃ found, scan pairSettings pairStore compileSpecifier = .ok found
        ∧ ∃ l exports,
          Loader.run (requiringTable pairSettings.cwd
              (fun _ => [.publish "ready" (.bool true)]) found) = (l, .ok exports)
            ∧ enterings l = found.graph.ids.map (ModuleId.stable · pairSettings.cwd)
            ∧ (enterings l).Nodup := by
  have habs : pairSettings.cwd.isAbsolute = true := by decide +kernel
  have hquiet : ∀ step ∈ [Step.publish "ready" (.bool true)], isQuiet step = true := by
    simp [isQuiet]
  obtain ⟨found, hscan⟩ := (exists_scan_iff pairSettings pairStore compileSpecifier habs).2
    fun id hid => by
      rcases (reachable_pair_iff id).1 hid with rfl | rfl
      · exact ⟨_, yields_pair_a⟩
      · exact ⟨_, yields_pair_b⟩
  obtain ⟨-, l, exports, hrun, hentered, hnodup, -⟩ :=
    run_requiringTable pairSettings pairStore compileSpecifier _ found habs (fun _ => hquiet) hscan
  exact ⟨habs, hquiet, found, hscan, l, exports, hrun, hentered, hnodup⟩

end ModuleBundler.Scan
