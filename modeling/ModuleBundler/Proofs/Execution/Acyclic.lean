import ModuleBundler.Proofs.Execution.ScannedGraph
import ModuleBundler.Proofs.Graph.Cycles
import ModuleBundler.Proofs.Loading.Returning
import ModuleBundler.Script.Comparison
import ModuleBundler.Script.Compile

/-!
# Graphs without cycles

A scan that warns of no cycle has found a graph whose imports are acyclic.  Its table has the same
imports, under the names of the modules, so they are acyclic too, and the table is closed.  Then no
requirement is answered with a stand-in, unless a factory has failed, and whatever else is answered
are the exports that the factory of the target has returned (`answered_of_no_warnings`).  All this
holds for whatever the factories do, and at every moment of any loadings on one loader.
-/

namespace ModuleBundler

namespace Execution

open Loading (Step)

lemma mem_ids_of_imports {g : DependencyGraph} {u t : ModuleId} (h : g.Imports u t) :
    u ∈ g.ids := by
  obtain ⟨record, hrecord, -⟩ := h
  exact DependencyGraph.mem_ids_of_get? hrecord

/-- A step suits the specifiers, whatever they lead to. -/
lemma suits_mapValues {β γ : Type} (f : β → γ) (m : OrderedMap String β) (step : Step) :
    step.suits (m.mapValues f) = step.suits m := by
  cases step with
  | require specifier slot => exact OrderedMap.contains_mapValues f m specifier
  | _ => rfl

/-- **The names of a graph fit** its table: no two modules have one name, and no import leads out of
    the graph. -/
structure Named (name : ModuleId → String) (g : DependencyGraph) : Prop where
  injective : ∀ a ∈ g.ids, ∀ b ∈ g.ids, name a = name b → a = b
  targets : ∀ u t, g.Imports u t → t ∈ g.ids

namespace Named

variable {name : ModuleId → String} {factory : ModuleId → ModuleRecord → List Step}
  {g : DependencyGraph}

/-- The imports of the table are those of the graph, under the names of the modules. -/
lemma imports_graphTable (h : Named name g) {key key' : String}
    (himports : (graphTable name factory g).Imports key key') :
    ∃ u t, g.Imports u t ∧ name u = key ∧ name t = key' := by
  obtain ⟨m, specifier, hm, hspecifier⟩ := himports
  obtain ⟨u, record, hrecord, rfl, rfl⟩ := exists_get?_of_graphTable h.injective hm
  rw [OrderedMap.get?_mapValues, Option.map_eq_some_iff] at hspecifier
  obtain ⟨t, ht, rfl⟩ := hspecifier
  exact ⟨u, t, ⟨record, hrecord, OrderedMap.mem_values_of_get? ht⟩, rfl, rfl⟩

/-- A path of imports in the table is one in the graph. -/
lemma transGen_graphTable (h : Named name g) {key key' : String}
    (hpath : Relation.TransGen (graphTable name factory g).Imports key key') :
    ∃ u ∈ g.ids, ∃ t ∈ g.ids, Relation.TransGen g.Imports u t ∧ name u = key ∧ name t = key' := by
  induction hpath with
  | single hstep =>
      obtain ⟨u, t, hut, rfl, rfl⟩ := h.imports_graphTable hstep
      exact ⟨u, mem_ids_of_imports hut, t, h.targets u t hut, .single hut, rfl, rfl⟩
  | tail _ hlast ih =>
      obtain ⟨u, hu, t, ht, hpath, rfl, rfl⟩ := ih
      obtain ⟨t', t'', hstep, heq, rfl⟩ := h.imports_graphTable hlast
      obtain rfl := h.injective t' (mem_ids_of_imports hstep) t ht heq
      exact ⟨u, hu, t'', h.targets t' t'' hstep, hpath.tail hstep, rfl, rfl⟩

/-- **A graph without cycles has a table without cycles.** -/
theorem acyclic_graphTable (h : Named name g) (hacyclic : Acyclic g.Imports) :
    Acyclic (graphTable name factory g).Imports := by
  intro key hcycle
  obtain ⟨u, hu, t, ht, hpath, rfl, heq⟩ := h.transGen_graphTable hcycle
  obtain rfl := h.injective t ht u hu heq
  exact hacyclic t hpath

/-- The table of a graph provides every target of its import maps. -/
lemma closed_graphTable (h : Named name g) : (graphTable name factory g).Closed := by
  intro key m hm specifier key' hspecifier
  obtain ⟨u, t, hut, -, rfl⟩ := h.imports_graphTable ⟨m, specifier, hm, hspecifier⟩
  rw [keys_graphTable h.injective]
  exact List.mem_map_of_mem (h.targets u t hut)

/-- Factories that suit the import maps of the graph suit those of the table. -/
lemma suiting_graphTable (h : Named name g)
    (hsuits : ∀ id record, g.get? id = some record →
      ∀ step ∈ factory id record, step.suits record.importMap = true) :
    (graphTable name factory g).Suiting := by
  intro key m hm step hstep
  obtain ⟨u, record, hrecord, rfl, rfl⟩ := exists_get?_of_graphTable h.injective hm
  exact (suits_mapValues name _ step).trans (hsuits u record hrecord step hstep)

end Named

end Execution

namespace Scan

open Discovery (Reachable Searched Yields discover searched_of_discover)
open Execution (Named graphTable)
open Loading (Leads Loader Step loadAll)
open Loading.Config (ended turn)

variable {σ : Type} [FileStore σ]

/-- The stable ids fit a scanned graph. -/
lemma named_of_scan {settings : Settings} {store : σ} {compile : Compiler}
    (habs : settings.cwd.isAbsolute = true) {reached : Discovery}
    (hrun : discover (resolver settings store) compile (entry settings store)
      = some ⟨reached, none⟩) : Named (ModuleId.stable · settings.cwd) reached.graph := by
  have hexplored := explored_of_scan hrun
  refine ⟨fun a ha b hb => ?_, ?_⟩
  · exact stable_injective_of_reachable habs ((hexplored.mem_ids a).1 ha)
      ((hexplored.mem_ids b).1 hb)
  · rintro u t ⟨record, hrecord, ht⟩
    exact hexplored.targets u record hrecord t ht

/-- **A scan that notes no cycle** has found acyclic imports: each module is done later than those
    that it imports. -/
lemma acyclic_of_scan {settings : Settings} {store : σ} {compile : Compiler} {reached : Discovery}
    (hrun : discover (resolver settings store) compile (entry settings store)
      = some ⟨reached, none⟩) (hnone : reached.cycles = []) : Acyclic reached.graph.Imports := by
  obtain ⟨done, hsearched⟩ := searched_of_discover hrun
  refine acyclic_of_rank (fun id => done.idxOf id) fun u t hut => ?_
  have hdone : u ∈ done :=
    ((hsearched.mem_ids u).1 (Execution.mem_ids_of_imports hut)).resolve_left List.not_mem_nil
  obtain ⟨record, hrecord, ht⟩ := hut
  obtain ⟨unit, hunit, rfl⟩ := (explored_of_scan hrun).records u record hrecord
  have himport : Discovery.Imports (resolver settings store) compile u t :=
    ⟨unit, hunit, (Discovery.mem_values_importMapOf _).1 ht⟩
  refine (hsearched.order u hdone t himport).resolve_left ?_
  rintro ⟨cycle, hcycle, -⟩
  rw [show reached.findings.cycles = [] from hnone] at hcycle
  cases hcycle

/-- **How requirements were answered** until a moment of a loading. -/
structure Answers (c : Loading.Config) : Prop where
  /-- No requirement was answered with a stand-in, unless a factory has failed. -/
  no_standIn : (∀ m, .left m none ∉ c.loader.events) →
    ∀ importer specifier target exports,
      .answered importer specifier target true exports ∉ c.loader.events
  /-- A stand-in was the answer for a module only after its factory had failed. -/
  standIn : ∀ before importer specifier target exports,
    before ++ [.answered importer specifier target true exports] <+: c.loader.events →
      .left target none ∈ before
  /-- Every other answer is what the factory of the target returned before. -/
  exports : ∀ before importer specifier target exports,
    before ++ [.answered importer specifier target false exports] <+: c.loader.events →
      .left target (some exports) ∈ before
  /-- So is the answer that is on its way. -/
  underway : ∀ w ws exports, c.waiting = w :: ws → c.phase = .answering (.ok exports) →
    .left w.target (some exports) ∈ c.loader.events
  /-- No factory returned twice with different exports. -/
  unique : ∀ m exports exports', .left m (some exports) ∈ c.loader.events →
    .left m (some exports') ∈ c.loader.events → exports = exports'

/-- Backed answers, and returns that are all kept, leave nothing to stand in for. -/
lemma Answers.of_traced {table : Loading.Table} {c : Loading.Config} (h : Loading.Traced table c) :
    Answers c where
  no_standIn hnone importer specifier target exports hmem := by
    obtain ⟨before, after, hevents⟩ := List.append_of_mem hmem
    have hfailed := h.backed before _ ⟨after, by rw [hevents, List.append_assoc]; rfl⟩
    refine hnone target ?_
    rw [hevents]
    exact List.mem_append_left _ hfailed
  standIn before _ _ _ _ hprefix := h.backed before _ hprefix
  exports before _ _ _ _ hprefix := h.backed before _ hprefix
  underway _ _ _ hwaiting hphase := h.mem_events_of_answering hwaiting hphase
  unique m exports exports' hleft hleft' := by
    have hcached := (h.kept m exports).2 hleft
    rw [(h.kept m exports').2 hleft'] at hcached
    exact (Option.some.inj hcached).symm

/-- **No cycle, no stand-in.**  Take the graph of a scan that succeeds without a warning, and any
    factories, and any moment of any loading after any earlier ones on the same loader.  As long as
    no factory has failed, no requirement was answered with a stand-in.  In any case a stand-in was
    the answer for a module only after its factory had failed.  Every other answer, among those
    that were given and the one that is on its way, is what the factory of the target returned
    before, and it never returned anything else.  If what the factories require is among the
    specifiers of their modules, and they do not fail of their own accord, no factory fails.  The
    moments end with the answer of the loading. -/
theorem answered_of_no_warnings (settings : Settings) (store : σ) (compile : Compiler)
    (factory : ModuleId → ModuleRecord → List Step) (found : Scan)
    (habs : settings.cwd.isAbsolute = true) (hscan : scan settings store compile = .ok found)
    (hsilent : found.warnings = []) (earlier : List String) (id : String) (n : ℕ) :
    let table := graphTable (ModuleId.stable · settings.cwd) factory found.graph
    let c := (turn table)^[n] ⟨loadAll table earlier, [], .loading id⟩
    Answers c
      ∧ ((∀ id record, found.graph.get? id = some record →
            ∀ step ∈ factory id record, step.suits record.importMap = true) →
          ∀ m, .left m none ∉ c.loader.events)
      ∧ Leads table c (ended [] (Loader.load table id (loadAll table earlier))) := by
  obtain ⟨reached, hrun, -, rfl⟩ := scan_eq_ok_iff.1 hscan
  have hnamed := named_of_scan habs hrun
  intro table c
  have hacyclic : Acyclic table.Imports :=
    hnamed.acyclic_graphTable (acyclic_of_scan hrun (List.map_eq_nil_iff.1 hsilent))
  have htraced : Loading.Traced table c := .of_acyclic hacyclic earlier id n
  refine ⟨.of_traced htraced, fun hsuits m => ?_, (Loading.leads_load table id _).iterate n⟩
  exact Loading.unfailed_of_suiting hnamed.closed_graphTable (hnamed.suiting_graphTable hsuits)
    earlier id n m

/-! ## A line of modules -/

/-- Imports that go down are no cycle that could be noted. -/
lemma cycles_eq_nil_of_rank {settings : Settings} {store : σ} {compile : Compiler}
    {reached : Discovery}
    (hrun : discover (resolver settings store) compile (entry settings store)
      = some ⟨reached, none⟩) (rank : ModuleId → ℕ)
    (hdown : ∀ u t, Reachable (resolver settings store) compile (entry settings store) u →
      Discovery.Imports (resolver settings store) compile u t → rank t < rank u) :
    reached.cycles = [] := by
  obtain ⟨done, hsearched⟩ := searched_of_discover hrun
  refine List.eq_nil_iff_forall_not_mem.2 fun cycle hcycle => ?_
  have hdescends : IsCycle (fun u t => rank t < rank u) cycle :=
    (hsearched.cycles cycle hcycle).imp fun u hu t hut =>
      hdown u t (Discovery.Within.reachable_of_mem_cycle hrun hcycle hu) hut
  obtain ⟨id, hid⟩ := hdescends.transGen
  exact acyclic_of_rank rank (fun _ _ h => h) id hid

/-- A small project: one script imports another, and that is all. -/
def lineStore : FlatStore :=
  ⟨.ofList [("", .directory), ("/p", .directory),
    ("/p/a.js", .file "import \"./b\";".toUTF8), ("/p/b.js", .file "".toUTF8)]⟩

lemma read_lineStore_a : FlatStore.read lineStore ⟨"/p/a.js"⟩ = .ok "import \"./b\";" := by
  rw [FlatStore.read_eq_ok_iff, show FlatStore.key ⟨"/p/a.js"⟩ = "/p/a.js" by decide +kernel]
  simp [lineStore, OrderedMap.ofList, OrderedMap.get?_insert]

lemma read_lineStore_b : FlatStore.read lineStore ⟨"/p/b.js"⟩ = .ok "" := by
  rw [FlatStore.read_eq_ok_iff, show FlatStore.key ⟨"/p/b.js"⟩ = "/p/b.js" by decide +kernel]
  simp [lineStore, OrderedMap.ofList, OrderedMap.get?_insert]

lemma exists_yields_line_a : ∃ unit,
    Yields (resolver pairSettings lineStore) Script.compile ⟨"/p/a.js"⟩ unit
      ∧ unit.imports = ["./b"] := by
  let p : Script.Program := ⟨none, [.importing ⟨0, 13⟩ "./b" []]⟩
  have hread : Script.Program.read "import \"./b\";".toList = .ok p := by decide +kernel
  refine ⟨p.lower "import \"./b\";".toList, ⟨_, read_lineStore_a, ?_⟩, by decide +kernel⟩
  rw [Script.compile, hread]
  rfl

lemma exists_yields_line_b : ∃ unit,
    Yields (resolver pairSettings lineStore) Script.compile ⟨"/p/b.js"⟩ unit
      ∧ unit.imports = [] := by
  let p : Script.Program := ⟨none, []⟩
  have hread : Script.Program.read "".toList = .ok p := by decide +kernel
  refine ⟨p.lower "".toList, ⟨_, read_lineStore_b, ?_⟩, by decide +kernel⟩
  rw [Script.compile, hread]
  rfl

lemma resolveId_line :
    (resolver pairSettings lineStore).resolveId (some ⟨"/p/a.js"⟩) "./b" = ⟨"/p/b.js"⟩ := by
  decide +kernel

lemma reachable_line {id : ModuleId}
    (h : Reachable (resolver pairSettings lineStore) Script.compile
      (entry pairSettings lineStore) id) : id = ⟨"/p/a.js"⟩ ∨ id = ⟨"/p/b.js"⟩ := by
  obtain ⟨a, ha, haimports⟩ := exists_yields_line_a
  obtain ⟨b, hb, hbimports⟩ := exists_yields_line_b
  induction h with
  | entry => exact .inl (by decide +kernel)
  | step _ hunit himport ih =>
      rcases ih with rfl | rfl
      · cases hunit.unique ha
        rw [haimports, List.mem_singleton] at himport
        rw [himport]
        exact .inr resolveId_line
      · cases hunit.unique hb
        rw [hbimports] at himport
        cases himport

/-- The import of the first script by the second is the only one. -/
lemma imports_line {u t : ModuleId}
    (hu : Reachable (resolver pairSettings lineStore) Script.compile
      (entry pairSettings lineStore) u)
    (h : Discovery.Imports (resolver pairSettings lineStore) Script.compile u t) :
    u = ⟨"/p/a.js"⟩ ∧ t = ⟨"/p/b.js"⟩ := by
  obtain ⟨a, ha, haimports⟩ := exists_yields_line_a
  obtain ⟨b, hb, hbimports⟩ := exists_yields_line_b
  obtain ⟨unit, hunit, s, hs, ht⟩ := h
  rcases reachable_line hu with rfl | rfl
  · cases hunit.unique ha
    rw [haimports, List.mem_singleton] at hs
    rw [hs, resolveId_line] at ht
    exact ⟨rfl, ht⟩
  · cases hunit.unique hb
    rw [hbimports] at hs
    cases hs

lemma exists_scan_line : ∃ found, scan pairSettings lineStore Script.compile = .ok found := by
  refine (exists_scan_iff pairSettings lineStore Script.compile (by decide +kernel)).2
    fun id hid => ?_
  rcases reachable_line hid with rfl | rfl
  · exact ⟨_, exists_yields_line_a.choose_spec.1⟩
  · exact ⟨_, exists_yields_line_b.choose_spec.1⟩

/-- Two scripts, one of which imports the other, are loaded without a failure and without a
    stand-in. -/
theorem answered_of_no_warnings_line :
    pairSettings.cwd.isAbsolute = true
      ∧ ∃ found, scan pairSettings lineStore Script.compile = .ok found
        ∧ found.warnings = []
        ∧ let table := graphTable (ModuleId.stable · pairSettings.cwd) (fun _ record =>
            Execution.requiring record.importMap.keys [.publish "ready" (.bool true)]) found.graph
          (∀ m, .left m none ∉ (loadAll table ["a.js", "b.js"]).events)
            ∧ ∀ importer specifier target exports,
                .answered importer specifier target true exports
                  ∉ (loadAll table ["a.js", "b.js"]).events := by
  have habs : pairSettings.cwd.isAbsolute = true := by decide +kernel
  obtain ⟨found, hscan⟩ := exists_scan_line
  have hsilent : found.warnings = [] := by
    obtain ⟨reached, hrun, -, rfl⟩ := scan_eq_ok_iff.1 hscan
    refine List.map_eq_nil_iff.2 (cycles_eq_nil_of_rank hrun
      (fun id => if id = ⟨"/p/a.js"⟩ then 1 else 0) fun u t hu hut => ?_)
    obtain ⟨rfl, rfl⟩ := imports_line hu hut
    decide
  obtain ⟨hanswers, hunfailed, -⟩ := answered_of_no_warnings pairSettings lineStore
    Script.compile (fun _ record =>
      Execution.requiring record.importMap.keys [.publish "ready" (.bool true)])
    found habs hscan hsilent ["a.js", "b.js"] "a.js" 0
  have hfine := hunfailed fun id record _ step hstep => by
    rcases List.mem_append.1 hstep with hstep | hstep
    · obtain ⟨specifier, hspecifier, rfl⟩ := List.mem_map.1 hstep
      exact (OrderedMap.contains_iff_mem_keys _ _).2 hspecifier
    · rw [List.mem_singleton.1 hstep]
      rfl
  exact ⟨habs, found, hscan, hsilent, hfine, hanswers.no_standIn hfine⟩

end Scan

end ModuleBundler
