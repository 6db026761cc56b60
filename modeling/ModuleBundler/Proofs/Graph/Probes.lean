import ModuleBundler.Proofs.Graph.Closure

/-!
# What a scan asks the store

A scan asks the store two things: whether a path is a file, and what a file holds.

**Candidates.**  For every specifier the path that it points at is tried, and where that is no file
the same path with the script ending (`Resolver.candidates`).

**Along a run.**  A discovery reads every module that it visits for the first time
(`Discovery.Reads`), and tries the candidates of whatever the module imports (`Discovery.Tries`).  A
store that gives the same answers to these questions takes it through the same stacks, turn by turn
(`turn_of_agrees`): what is asked later depends only on what was answered before.  So it comes to
the same outcome, whether it goes well, fails or never ends (`discover_of_agrees`).

**Out of the graph.**  What a scan has asked, if it went well, can be told from its graph
(`Scan.candidates`, `Scan.asked`, `Scan.tries_iff`).
-/

namespace ModuleBundler

variable {σ τ : Type} [FileStore σ] [FileStore τ]

namespace Resolver

/-- What is tried for a path: the path, and with the script ending if it is no file. -/
def tried (r : Resolver σ) (p : Path) : List Path :=
  if FileStore.isFile r.store p then [p] else [p, withEnding p]

/-- **What is tried for a specifier.** -/
def candidates (r : Resolver σ) (importer : Option ModuleId) (specifier : String) : List Path :=
  r.tried (r.join ((importer.map ModuleId.directory).getD r.cwd) specifier)

variable {r : Resolver σ} {store : τ}

lemma resolve_of_tried {p : Path}
    (h : ∀ q ∈ r.tried p, FileStore.isFile store q = FileStore.isFile r.store q) :
    resolve ⟨r.cwd, store⟩ p = r.resolve p := by
  rw [tried] at h
  rw [resolve, resolve]
  split at h
  · next hfile => rw [if_pos ((h p (by simp)).trans hfile), if_pos hfile]
  · rw [h p (by simp), h (withEnding p) (by simp)]

/-- A specifier leads to the same module wherever its candidates are the same. -/
lemma resolveId_of_candidates {importer : Option ModuleId} {specifier : String}
    (h : ∀ q ∈ r.candidates importer specifier,
      FileStore.isFile store q = FileStore.isFile r.store q) :
    resolveId ⟨r.cwd, store⟩ importer specifier = r.resolveId importer specifier :=
  resolve_of_tried h

end Resolver

namespace Discovery

lemma mem_keys_importMapOf (r : Resolver σ) {id : ModuleId} {imports : List String}
    {specifier : String} : specifier ∈ (importMapOf r id imports).keys ↔ specifier ∈ imports := by
  rw [OrderedMap.keys_eq_map, toList_importMapOf, List.map_map]
  simp

/-- **What a discovery comes to**: the stacks in the course of it, and how far it has come. -/
inductive Comes (r : Resolver σ) (compile : Compiler) (entry : ModuleId) :
    List Frame → Discovery → Prop
  | start : Comes r compile entry [.visit entry none] (start entry)
  | next {frames frames' : List Frame} {d d' : Discovery} (h : Comes r compile entry frames d)
      (hturn : turn r compile frames d = .next frames' d') : Comes r compile entry frames' d'

/-- **A discovery reads a module** when it visits it for the first time. -/
def Reads (r : Resolver σ) (compile : Compiler) (entry id : ModuleId) : Prop :=
  ∃ importer rest d, Comes r compile entry (.visit id importer :: rest) d ∧ id ∉ d.graph.ids

/-- **A discovery tries a path** that is a candidate for an import of a module it has read. -/
def Tries (r : Resolver σ) (compile : Compiler) (entry : ModuleId) (p : Path) : Prop :=
  ∃ id unit, Reads r compile entry id ∧ Yields r compile id unit
    ∧ ∃ specifier ∈ unit.imports, p ∈ r.candidates (some id) specifier

/-- **A store agrees with a discovery** if it gives the same answers to what is asked. -/
structure Agrees (r : Resolver σ) (compile : Compiler) (entry : ModuleId) (store : τ) : Prop where
  reads : ∀ id, Reads r compile entry id → FileStore.read store id = FileStore.read r.store id
  files : ∀ p, Tries r compile entry p → FileStore.isFile store p = FileStore.isFile r.store p

variable {r : Resolver σ} {compile : Compiler} {entry : ModuleId} {store : τ}

/-! ## In step -/

/-- An import map depends on the resolver only through its own specifiers. -/
lemma importMapOf_congr {r' : Resolver τ} {id : ModuleId} {imports : List String}
    (h : ∀ s ∈ imports, r'.resolveId (some id) s = r.resolveId (some id) s) :
    importMapOf r' id imports = importMapOf r id imports := by
  refine OrderedMap.toList_injective ?_
  rw [toList_importMapOf, toList_importMapOf]
  exact List.map_congr_left fun s hs => by rw [h s (List.mem_eraseDups.1 hs)]

/-- A module is read, compiled and resolved in the same way. -/
lemma Agrees.expand (h : Agrees r compile entry store) {d : Discovery} {id : ModuleId}
    (hid : Reads r compile entry id) (importer : Option ModuleId) :
    expand ⟨r.cwd, store⟩ compile d id importer = Discovery.expand r compile d id importer := by
  rw [Discovery.expand, Discovery.expand, readSource, readSource, h.reads id hid]
  cases hread : FileStore.read r.store id with
  | error cause => rfl
  | ok source =>
      simp only [Except.mapError]
      cases hcompile : compile id source with
      | error errors => rfl
      | ok unit =>
          have hmap : importMapOf ⟨r.cwd, store⟩ id unit.imports = importMapOf r id unit.imports :=
            importMapOf_congr fun s hs => Resolver.resolveId_of_candidates fun p hp =>
              h.files p ⟨id, unit, hid, ⟨source, hread, hcompile⟩, s, hs, hp⟩
          simp only [hmap]

/-- **The turns are the same turns.** -/
theorem turn_of_agrees (h : Agrees r compile entry store) {frames : List Frame} {d : Discovery}
    (hcomes : Comes r compile entry frames d) :
    turn ⟨r.cwd, store⟩ compile frames d = turn r compile frames d := by
  match frames with
  | [] => rfl
  | .finish id m :: rest => rfl
  | .visit id importer :: rest =>
      rw [turn, turn]
      split
      · rfl
      · next hnew =>
          rw [DependencyGraph.contains_iff_mem_ids] at hnew
          rw [h.expand ⟨importer, rest, d, hcomes, hnew⟩ importer]

/-- Runs whose turns are the same come to the same outcome. -/
lemma run_of_turns {r' : Resolver τ} {P : List Frame → Discovery → Prop}
    (hturn : ∀ frames d, P frames d → turn r' compile frames d = turn r compile frames d)
    (hnext : ∀ frames d frames' d', P frames d → turn r compile frames d = .next frames' d' →
      P frames' d')
    {frames : List Frame} {d : Discovery} {outcome : Outcome}
    (h : run r compile frames d = some outcome) (hP : P frames d) :
    run r' compile frames d = some outcome := by
  obtain ⟨last, reached, ⟨hlast, hsame⟩, hhalt⟩ := exists_last_turn
    (P := fun fs d' => P fs d' ∧ run r' compile frames d = run r' compile fs d') (by
      rintro fs d' fs' d'' ⟨hP, hsame⟩ hstep
      refine ⟨hnext _ _ _ _ hP hstep, hsame.trans ?_⟩
      exact run_of_next r' compile ((hturn _ _ hP).trans hstep)) h ⟨hP, rfl⟩
  rw [hsame]
  exact run_of_halt r' compile ((hturn _ _ hlast).trans hhalt)

/-- **A discovery depends on the answers it gets, and on nothing else in the store**: on a store
    that agrees it comes to the same outcome, or to none. -/
theorem discover_of_agrees (h : Agrees r compile entry store) :
    discover ⟨r.cwd, store⟩ compile entry = discover r compile entry := by
  refine Option.ext fun outcome => ⟨fun hrun => ?_, fun hrun => ?_⟩
  · refine run_of_turns (P := Comes r compile entry)
      (fun frames d hcomes => (turn_of_agrees h hcomes).symm) ?_ hrun .start
    intro frames d frames' d' hcomes hstep
    rw [turn_of_agrees h hcomes] at hstep
    exact hcomes.next hstep
  · exact run_of_turns (P := Comes r compile entry) (fun frames d => turn_of_agrees h)
      (fun frames d frames' d' hcomes hstep => hcomes.next hstep) hrun .start

/-! ## What a discovery that goes well has asked -/

/-- What every turn keeps holds of all that a discovery comes to. -/
lemma Comes.invariant {P : List Frame → Discovery → Prop}
    (hstart : P [.visit entry none] (Discovery.start entry))
    (hnext : ∀ frames d frames' d', Advance r compile frames d frames' d' →
      P frames d → P frames' d')
    {frames : List Frame} {d : Discovery} (h : Comes r compile entry frames d) : P frames d := by
  induction h with
  | start => exact hstart
  | next _ hturn ih => exact hnext _ _ _ _ (advance_of_turn r compile hturn) ih

lemma Reads.reachable {id : ModuleId} (h : Reads r compile entry id) :
    Reachable r compile entry id := by
  obtain ⟨importer, rest, d, hcomes, -⟩ := h
  have hexploring : Exploring r compile entry (.visit id importer :: rest) d :=
    hcomes.invariant (exploring_start entry) fun _ _ _ _ hturn hd => hd.advance hturn
  exact hexploring.visits id importer (List.mem_cons_self ..)

/-- A module gets into the graph only by being read. -/
lemma Comes.reads {frames : List Frame} {d : Discovery} (h : Comes r compile entry frames d)
    {id : ModuleId} (hid : id ∈ d.graph.ids) : Reads r compile entry id := by
  induction h with
  | start => cases hid
  | next hcomes hturn ih =>
      cases advance_of_turn r compile hturn with
      | closing id' m rest d =>
          rw [close, DependencyGraph.ids_finish] at hid
          exact ih hid
      | meeting id' importer rest d hmem =>
          rw [graph_revisit] at hid
          exact ih hid
      | entering id' importer rest _ unit hnew hunit =>
          change id ∈ (DependencyGraph.reserve _ id' unit.code).ids at hid
          rw [DependencyGraph.ids_reserve _ unit.code hnew] at hid
          rcases List.mem_append.1 hid with hid | hid
          · exact ih hid
          · rw [List.mem_singleton.1 hid]
            exact ⟨importer, rest, _, hcomes, hnew⟩

/-- **What a discovery that goes well has read** is all that can be reached. -/
theorem reads_iff {reached : Discovery} (hrun : discover r compile entry = some ⟨reached, none⟩)
    (hexplored : Explored r compile entry reached) {id : ModuleId} :
    Reads r compile entry id ↔ Reachable r compile entry id := by
  refine ⟨Reads.reachable, fun hid => ?_⟩
  obtain ⟨frames, d, hcomes, hturn⟩ := exists_last_turn (P := Comes r compile entry)
    (fun _ _ _ _ hcomes hturn => hcomes.next hturn) hrun .start
  rcases turn_halt r compile hturn with ⟨-, hd⟩ | ⟨herrors, -⟩
  · cases hd
    exact hcomes.reads ((hexplored.mem_ids id).2 hid)
  · cases herrors

end Discovery

namespace Scan

open Discovery (Explored Reachable Reads Yields)

/-- **A scan tries a path** that is a candidate for its entry, or that its discovery tries. -/
def Tries (settings : Settings) (store : σ) (compile : Compiler) (p : Path) : Prop :=
  p ∈ (resolver settings store).candidates none settings.entry
    ∨ Discovery.Tries (resolver settings store) compile (entry settings store) p

/-- **Every path that a scan has tried**, if it went well. -/
def candidates (settings : Settings) (store : σ) (found : Scan) : List Path :=
  (resolver settings store).candidates none settings.entry
    ++ found.graph.modules.toList.flatMap fun e =>
        e.2.importMap.keys.flatMap ((resolver settings store).candidates (some e.1))

/-- **Every path that a scan has asked the store about**, if it went well. -/
def asked (settings : Settings) (store : σ) (found : Scan) : List Path :=
  candidates settings store found ++ found.graph.ids

variable {settings : Settings} {store : σ} {store' : τ} {compile : Compiler} {found : Scan}

/-- **What a scan tries**, told from the modules that can be reached. -/
lemma mem_candidates_iff (hscan : scan settings store compile = .ok found) {p : Path} :
    p ∈ candidates settings store found
      ↔ p ∈ (resolver settings store).candidates none settings.entry
        ∨ ∃ id unit, Reachable (resolver settings store) compile (entry settings store) id
            ∧ Yields (resolver settings store) compile id unit
            ∧ ∃ specifier ∈ unit.imports,
                p ∈ (resolver settings store).candidates (some id) specifier := by
  obtain ⟨reached, hrun, -, rfl⟩ := scan_eq_ok_iff.1 hscan
  have hexplored := explored_of_scan hrun
  rw [candidates, List.mem_append]
  refine or_congr_right ⟨fun h => ?_, ?_⟩
  · obtain ⟨⟨id, record⟩, hrecord, h⟩ := List.mem_flatMap.1 h
    obtain ⟨specifier, hspecifier, hp⟩ := List.mem_flatMap.1 h
    rw [← OrderedMap.get?_eq_some_iff_mem] at hrecord
    have hid := (hexplored.mem_ids id).1 (DependencyGraph.mem_ids_of_get? hrecord)
    obtain ⟨unit, hunit, rfl⟩ := hexplored.records id record hrecord
    exact ⟨id, unit, hid, hunit, specifier, (Discovery.mem_keys_importMapOf _).1 hspecifier, hp⟩
  · rintro ⟨id, unit, hid, hunit, specifier, hspecifier, hp⟩
    obtain ⟨record, hrecord⟩ :=
      DependencyGraph.exists_get?_of_mem_ids ((hexplored.mem_ids id).2 hid)
    obtain ⟨unit', hunit', rfl⟩ := hexplored.records id record hrecord
    cases hunit.unique hunit'
    exact List.mem_flatMap.2 ⟨_, (OrderedMap.get?_eq_some_iff_mem _ _ _).1 hrecord,
      List.mem_flatMap.2 ⟨specifier, (Discovery.mem_keys_importMapOf _).2 hspecifier, hp⟩⟩

/-- **What a scan asks about**, told from the modules that can be reached. -/
lemma mem_asked_iff (hscan : scan settings store compile = .ok found) {p : Path} :
    p ∈ asked settings store found
      ↔ p ∈ (resolver settings store).candidates none settings.entry
        ∨ Reachable (resolver settings store) compile (entry settings store) p
        ∨ ∃ id unit, Reachable (resolver settings store) compile (entry settings store) id
            ∧ Yields (resolver settings store) compile id unit
            ∧ ∃ specifier ∈ unit.imports,
                p ∈ (resolver settings store).candidates (some id) specifier := by
  have hids : p ∈ found.graph.ids
      ↔ Reachable (resolver settings store) compile (entry settings store) p := by
    obtain ⟨reached, hrun, -, rfl⟩ := scan_eq_ok_iff.1 hscan
    exact (explored_of_scan hrun).mem_ids p
  rw [asked, List.mem_append, mem_candidates_iff hscan, hids, or_assoc, or_comm (b := Reachable ..)]

/-- What a scan has tried in the course of its run is what can be told from its graph. -/
lemma tries_iff (hscan : scan settings store compile = .ok found) {p : Path} :
    Tries settings store compile p ↔ p ∈ candidates settings store found := by
  rw [mem_candidates_iff hscan]
  obtain ⟨reached, hrun, -, rfl⟩ := scan_eq_ok_iff.1 hscan
  simp only [Tries, Discovery.Tries, Discovery.reads_iff hrun (explored_of_scan hrun)]

/-- What a scan has read is in its graph. -/
lemma mem_ids_of_reads (hscan : scan settings store compile = .ok found) {id : ModuleId}
    (hid : Reads (resolver settings store) compile (entry settings store) id) :
    id ∈ found.graph.ids := by
  obtain ⟨reached, hrun, -, rfl⟩ := scan_eq_ok_iff.1 hscan
  exact ((explored_of_scan hrun).mem_ids id).2 hid.reachable

/-- **A scan depends on the answers it gets, and on nothing else in the store.** -/
theorem discovery_of_agreeing
    (hfiles : ∀ p, Tries settings store compile p →
      FileStore.isFile store' p = FileStore.isFile store p)
    (hreads : ∀ id, Reads (resolver settings store) compile (entry settings store) id →
      FileStore.read store' id = FileStore.read store id) :
    discovery settings store' compile = discovery settings store compile := by
  have hentry : entry settings store' = entry settings store :=
    Resolver.resolveId_of_candidates (r := resolver settings store) fun p hp => hfiles p (.inl hp)
  have hagrees : Discovery.Agrees (resolver settings store) compile (entry settings store) store' :=
    ⟨hreads, fun p hp => hfiles p (.inr hp)⟩
  have hdiscover := Discovery.discover_of_agrees hagrees
  rw [discovery, discovery, hentry]
  exact congrArg (Option.getD · _) hdiscover

/-- A scan that goes well goes well on every store that gives the same answers. -/
theorem scan_of_agreeing (hscan : scan settings store compile = .ok found)
    (hfiles : ∀ p ∈ candidates settings store found,
      FileStore.isFile store' p = FileStore.isFile store p)
    (hreads : ∀ id ∈ found.graph.ids, FileStore.read store' id = FileStore.read store id) :
    scan settings store' compile = .ok found := by
  have hsame : discovery settings store' compile = discovery settings store compile :=
    discovery_of_agreeing (fun p hp => hfiles p ((tries_iff hscan).1 hp)) fun id hid =>
      hreads id (mem_ids_of_reads hscan hid)
  rw [scan, hsame]
  exact hscan

end Scan

end ModuleBundler
