import Mathlib.Data.List.Perm.Subperm
import ModuleBundler.Graph.Scan
import ModuleBundler.Proofs.FileStore.Seeding
import ModuleBundler.Proofs.Graph.Resolution
import ModuleBundler.Proofs.Graph.Turns

/-!
# The graph is what can be reached

**Reachable modules.**  `Reachable` is the least set that contains the entry and, with a module
that can be read and compiled, whatever the module imports.

**The invariant.**  `Exploring` relates the stack and the graph in the middle of a discovery:
everything in either is reachable, and whatever a module of the graph imports is in the graph or
waits in a frame.  An import map is final, or waits in the frame that will attach it.  When the
stack is empty nothing waits, so the graph is closed (`Explored`).

**Termination.**  Over a flat store, each module of the graph is a file of its own, because the
ids are canonical and so no two of them have one key.  A turn that enters a module uses up a file,
and any other turn shortens the stack (`exists_run`).
-/

namespace ModuleBundler

open ModuleBundler.Path (IsCanonical)

namespace Discovery

variable {σ : Type} [FileStore σ] (r : Resolver σ) (compile : Compiler)

/-- **The modules that can be reached** from the entry along the imports of modules that can be
    read and compiled. -/
inductive Reachable (entry : ModuleId) : ModuleId → Prop
  | entry : Reachable entry entry
  | step {id : ModuleId} {unit : CompiledModule} {specifier : String} (hid : Reachable entry id)
      (hunit : Yields r compile id unit) (himport : specifier ∈ unit.imports) :
      Reachable entry (r.resolveId (some id) specifier)

lemma isCanonical_of_reachable {entry id : ModuleId} (habs : r.cwd.isAbsolute = true)
    (hentry : IsCanonical entry) (h : Reachable r compile entry id) : IsCanonical id := by
  cases h with
  | entry => exact hentry
  | step => exact r.isCanonical_resolveId habs _ _

/-- The module is in the graph, or will be visited. -/
def Awaited (frames : List Frame) (d : Discovery) (id : ModuleId) : Prop :=
  id ∈ d.graph.ids ∨ ∃ importer, .visit id importer ∈ frames

/-- **What holds in the middle of a discovery.** -/
structure Exploring (entry : ModuleId) (frames : List Frame) (d : Discovery) : Prop where
  visits : ∀ id importer, .visit id importer ∈ frames → Reachable r compile entry id
  /-- What will be attached is the import map of its module. -/
  finishes : ∀ id m, .finish id m ∈ frames →
    ∃ unit, Yields r compile id unit ∧ m = importMapOf r id unit.imports
  starts : Awaited frames d entry
  graph_entry : d.graph.entry = entry
  /-- The compiler has been called for the modules of the graph, in their order. -/
  compiled : d.compiled = d.graph.ids
  records : ∀ id record, d.graph.get? id = some record →
    Reachable r compile entry id ∧ ∃ unit, Yields r compile id unit ∧ record.code = unit.code
      ∧ (record.importMap = importMapOf r id unit.imports
          ∨ .finish id (importMapOf r id unit.imports) ∈ frames)
      ∧ ∀ target ∈ (importMapOf r id unit.imports).values, Awaited frames d target

variable {r compile}

lemma exploring_start (entry : ModuleId) :
    Exploring r compile entry [.visit entry none] (start entry) where
  visits id importer h := by
    cases List.mem_singleton.1 h
    exact .entry
  finishes id m h := nomatch List.mem_singleton.1 h
  starts := .inr ⟨none, by simp⟩
  graph_entry := rfl
  compiled := rfl
  records id record h := nomatch h

/-- Closing a module forgets nothing. -/
lemma Awaited.closing {id target : ModuleId} {m : ImportMap} {rest : List Frame} {d : Discovery}
    (h : Awaited (.finish id m :: rest) d target) : Awaited rest (d.close id m) target := by
  refine h.imp (fun ht => ?_) fun ⟨i, hi⟩ => ⟨i, by simpa using hi⟩
  rwa [close, DependencyGraph.ids_finish]

/-- Working off a visit to a module of the graph forgets nothing. -/
lemma Awaited.meeting {id target : ModuleId} {importer : Option ModuleId} {rest : List Frame}
    {d : Discovery} (hmem : id ∈ d.graph.ids)
    (h : Awaited (.visit id importer :: rest) d target) : Awaited rest (d.revisit id) target := by
  rw [Awaited, graph_revisit]
  rcases h with h | ⟨i, h⟩
  · exact .inl h
  · rcases List.mem_cons.1 h with h | h
    · cases h
      exact .inl hmem
    · exact .inr ⟨i, h⟩

/-- Entering a module forgets nothing. -/
lemma Awaited.entering {id target : ModuleId} {importer : Option ModuleId} {rest : List Frame}
    {d d' : Discovery} (pushed : List Frame) (hids : d'.graph.ids = d.graph.ids ++ [id])
    (h : Awaited (.visit id importer :: rest) d target) : Awaited (pushed ++ rest) d' target := by
  rw [Awaited, hids]
  rcases h with h | ⟨i, h⟩
  · exact .inl (by simp [h])
  · rcases List.mem_cons.1 h with h | h
    · cases h
      exact .inl (by simp)
    · exact .inr ⟨i, by simp [h]⟩

lemma mem_framesOf_visit {id target : ModuleId} {m : ImportMap} {importer : Option ModuleId}
    (h : .visit target importer ∈ framesOf id m) : target ∈ m.values := by
  rw [framesOf, List.mem_append] at h
  rcases h with h | h
  · obtain ⟨t, ht, he⟩ := List.mem_map.1 h
    cases he
    exact ht
  · cases List.mem_singleton.1 h

lemma mem_framesOf_finish {id id' : ModuleId} {m m' : ImportMap}
    (h : .finish id' m' ∈ framesOf id m) : id' = id ∧ m' = m := by
  rw [framesOf, List.mem_append] at h
  rcases h with h | h
  · obtain ⟨t, -, he⟩ := List.mem_map.1 h
    cases he
  · cases List.mem_singleton.1 h
    exact ⟨rfl, rfl⟩

/-- **Every turn keeps the invariant.** -/
theorem Exploring.advance {entry : ModuleId} {frames frames' : List Frame} {d d' : Discovery}
    (hturn : Advance r compile frames d frames' d') (h : Exploring r compile entry frames d) :
    Exploring r compile entry frames' d' := by
  cases hturn with
  | closing id m _ d =>
      obtain ⟨unit, hunit, rfl⟩ := h.finishes id m (by simp)
      refine ⟨fun t i ht => h.visits t i (by simp [ht]),
        fun t m ht => h.finishes t m (by simp [ht]), h.starts.closing, h.graph_entry, ?_, ?_⟩
      · rw [close, DependencyGraph.ids_finish]
        exact h.compiled
      · intro id' record hrecord
        rw [close, DependencyGraph.get?_finish] at hrecord
        split at hrecord
        · next heq =>
            subst heq
            obtain ⟨before, hbefore, rfl⟩ := Option.map_eq_some_iff.1 hrecord
            obtain ⟨hreach, unit', hunit', hcode, -, htargets⟩ := h.records id before hbefore
            cases hunit.unique hunit'
            exact ⟨hreach, unit, hunit, hcode, .inl rfl, fun t ht => (htargets t ht).closing⟩
        · next hne =>
            obtain ⟨hreach, unit', hunit', hcode, hmap, htargets⟩ := h.records id' record hrecord
            refine ⟨hreach, unit', hunit', hcode, hmap.imp_right fun hm => ?_,
              fun t ht => (htargets t ht).closing⟩
            rcases List.mem_cons.1 hm with hm | hm
            · exact absurd (Frame.finish.inj hm).1.symm hne
            · exact hm
  | meeting id importer _ d hmem =>
      refine ⟨fun t i ht => h.visits t i (by simp [ht]),
        fun t m ht => h.finishes t m (by simp [ht]), h.starts.meeting hmem, ?_, ?_, ?_⟩
      · rw [graph_revisit]
        exact h.graph_entry
      · rw [compiled_revisit, graph_revisit]
        exact h.compiled
      · intro id' record hrecord
        rw [graph_revisit] at hrecord
        obtain ⟨hreach, unit, hunit, hcode, hmap, htargets⟩ := h.records id' record hrecord
        refine ⟨hreach, unit, hunit, hcode, hmap.imp_right fun hm => ?_,
          fun t ht => (htargets t ht).meeting hmem⟩
        exact (List.mem_cons.1 hm).resolve_left (fun he => by cases he)
  | entering id importer rest d unit hnew hunit =>
      have hreach : Reachable r compile entry id := h.visits id importer (by simp)
      have hids : (d.graph.reserve id unit.code).ids = d.graph.ids ++ [id] :=
        d.graph.ids_reserve unit.code hnew
      refine ⟨?_, ?_, h.starts.entering _ hids, ?_, ?_, ?_⟩
      · intro t i ht
        rcases List.mem_append.1 ht with ht | ht
        · obtain ⟨s, hs, rfl⟩ := (mem_values_importMapOf r).1 (mem_framesOf_visit ht)
          exact .step hreach hunit hs
        · exact h.visits t i (by simp [ht])
      · intro t m ht
        rcases List.mem_append.1 ht with ht | ht
        · obtain ⟨rfl, rfl⟩ := mem_framesOf_finish ht
          exact ⟨unit, hunit, rfl⟩
        · exact h.finishes t m (by simp [ht])
      · exact (d.graph.entry_reserve id unit.code).trans h.graph_entry
      · exact (congrArg (· ++ [id]) h.compiled).trans hids.symm
      · intro id' record hrecord
        have hget := (d.graph.get?_reserve unit.code hnew id').symm.trans hrecord
        split at hget
        · next heq =>
            subst heq
            cases hget
            refine ⟨hreach, unit, hunit, rfl, .inr (by simp [framesOf]), fun t ht => .inr ?_⟩
            exact ⟨some id, by simp [framesOf, ht]⟩
        · obtain ⟨hreach', unit', hunit', hcode, hmap, htargets⟩ := h.records id' record hget
          refine ⟨hreach', unit', hunit', hcode, hmap.imp_right fun hm => ?_,
            fun t ht => (htargets t ht).entering _ hids⟩
          have hrest := (List.mem_cons.1 hm).resolve_left (fun he => by cases he)
          simp [hrest]

/-- What is in the graph can be reached and has been read. -/
lemma Exploring.of_mem_ids {entry : ModuleId} {frames : List Frame} {d : Discovery}
    (h : Exploring r compile entry frames d) : ∀ id ∈ d.graph.ids, Reachable r compile entry id
      ∧ ∃ source, FileStore.read r.store id = .ok source := by
  intro id hid
  obtain ⟨record, hrecord⟩ := DependencyGraph.exists_get?_of_mem_ids hid
  obtain ⟨hreach, unit, ⟨source, hread, -⟩, -⟩ := h.records id record hrecord
  exact ⟨hreach, source, hread⟩

/-- **What a discovery that went well has found.** -/
structure Explored (r : Resolver σ) (compile : Compiler) (entry : ModuleId) (d : Discovery) :
    Prop where
  graph_entry : d.graph.entry = entry
  compiled : d.compiled = d.graph.ids
  mem_ids : ∀ id, id ∈ d.graph.ids ↔ Reachable r compile entry id
  records : ∀ id record, d.graph.get? id = some record → ∃ unit, Yields r compile id unit
    ∧ record = ⟨unit.code, importMapOf r id unit.imports⟩
  targets : ∀ id record, d.graph.get? id = some record →
    ∀ target ∈ record.importMap.values, target ∈ d.graph.ids

/-- With an empty stack nothing waits any more. -/
lemma Exploring.explored {entry : ModuleId} {d : Discovery}
    (h : Exploring r compile entry [] d) : Explored r compile entry d := by
  have harrived : ∀ target, Awaited [] d target → target ∈ d.graph.ids := by
    rintro target (ht | ⟨i, hi⟩)
    · exact ht
    · cases hi
  have hrecords : ∀ id record, d.graph.get? id = some record → ∃ unit, Yields r compile id unit
      ∧ record = ⟨unit.code, importMapOf r id unit.imports⟩ := by
    intro id record hrecord
    obtain ⟨-, unit, hunit, hcode, hmap, -⟩ := h.records id record hrecord
    refine ⟨unit, hunit, ?_⟩
    rw [← hcode, ← hmap.resolve_right (by simp)]
  have htargets : ∀ id record, d.graph.get? id = some record →
      ∀ target ∈ record.importMap.values, target ∈ d.graph.ids := by
    intro id record hrecord target ht
    obtain ⟨-, unit, -, -, hmap, htargets⟩ := h.records id record hrecord
    rw [hmap.resolve_right (by simp)] at ht
    exact harrived target (htargets target ht)
  refine ⟨h.graph_entry, h.compiled, fun id => ⟨fun hid => ?_, fun hid => ?_⟩, hrecords, htargets⟩
  · obtain ⟨record, hrecord⟩ := DependencyGraph.exists_get?_of_mem_ids hid
    exact (h.records id record hrecord).1
  -- Reachability is the least such set, and the graph is one: it has the entry and is closed.
  · induction hid with
    | entry => exact harrived entry h.starts
    | step _ hunit himport ih =>
        obtain ⟨record, hrecord⟩ := DependencyGraph.exists_get?_of_mem_ids ih
        obtain ⟨unit', hunit', rfl⟩ := hrecords _ record hrecord
        cases hunit.unique hunit'
        exact htargets _ _ hrecord _ ((mem_values_importMapOf r).2 ⟨_, himport, rfl⟩)

/-- **How a discovery ends**: with all that can be reached, or with errors if some of it cannot
    be read and compiled. -/
theorem explored_or_failed {entry : ModuleId} {outcome : Outcome}
    (h : discover r compile entry = some outcome) :
    (outcome.errors = none ∧ Explored r compile entry outcome.reached)
      ∨ (outcome.errors.isSome
          ∧ ∃ id, Reachable r compile entry id ∧ ∀ unit, ¬ Yields r compile id unit) := by
  refine run_invariant r compile (P := Exploring r compile entry)
    (Q := fun outcome => (outcome.errors = none ∧ Explored r compile entry outcome.reached)
      ∨ (outcome.errors.isSome
          ∧ ∃ id, Reachable r compile entry id ∧ ∀ unit, ¬ Yields r compile id unit))
    (fun _ _ _ _ hturn hp => hp.advance hturn) ?_ h (exploring_start entry)
  intro frames d outcome hturn hp
  rcases turn_halt r compile hturn with
    ⟨rfl, rfl⟩ | ⟨herrors, id, importer, rest, rfl, -, hnone⟩
  · exact .inl ⟨rfl, hp.explored⟩
  · exact .inr ⟨herrors, id, hp.visits id importer (by simp), hnone⟩

variable (r compile) in
/-- The entry is found first, before anything that it imports. -/
lemma head?_ids_of_discover {entry : ModuleId} {outcome : Outcome}
    (h : discover r compile entry = some outcome) (hok : outcome.errors = none) :
    outcome.reached.graph.ids.head? = some entry := by
  let AtStart (frames : List Frame) (d : Discovery) : Prop :=
    d.graph.ids = [] ∧ frames = [.visit entry none]
  refine run_invariant r compile
    (P := fun frames d => AtStart frames d ∨ d.graph.ids.head? = some entry)
    (Q := fun outcome => outcome.errors = none → outcome.reached.graph.ids.head? = some entry)
    ?_ ?_ h (.inl ⟨rfl, rfl⟩) hok
  · rintro frames d frames' d' hturn (⟨hids, rfl⟩ | hhead)
    · cases hturn with
      | meeting id importer rest d hmem => simp [hids] at hmem
      | entering id importer rest d unit hnew hunit =>
          right
          change (d.graph.reserve entry unit.code).ids.head? = _
          rw [d.graph.ids_reserve unit.code hnew, hids]
          rfl
    · right
      cases hturn with
      | closing id m rest d => rwa [close, DependencyGraph.ids_finish]
      | meeting id importer rest d hmem => rwa [graph_revisit]
      | entering id importer rest d unit hnew hunit =>
          change (d.graph.reserve id unit.code).ids.head? = _
          rw [d.graph.ids_reserve unit.code hnew, List.head?_append, hhead]
          rfl
  · intro frames d outcome hturn hp hok
    rcases turn_halt r compile hturn with ⟨rfl, rfl⟩ | ⟨herrors, -⟩
    · exact hp.resolve_left fun h => by cases h.2
    · rw [hok] at herrors
      cases herrors

/-! ## Termination over a flat store -/

section Flat

variable {r : Resolver FlatStore}

/-- The keys of the files of a store. -/
def fileKeys (store : FlatStore) : List String :=
  (store.entries.toList.filter fun e =>
    match e.2 with
    | .file _ => true
    | .directory => false).map Prod.fst

lemma length_fileKeys (store : FlatStore) : (fileKeys store).length = store.fileCount := by
  rw [fileKeys, List.length_map, ← List.countP_eq_length_filter, FlatStore.fileCount,
    OrderedMap.values_eq_map, List.countP_map]
  rfl

lemma key_mem_fileKeys {store : FlatStore} {p : Path} {source : String}
    (h : FlatStore.read store p = .ok source) : FlatStore.key p ∈ fileKeys store := by
  rw [FlatStore.read] at h
  split at h
  · cases h
  · cases h
  · next bytes hget =>
      exact List.mem_map.2 ⟨(FlatStore.key p, .file bytes), List.mem_filter.2
        ⟨(OrderedMap.get?_eq_some_iff_mem _ _ _).1 hget, rfl⟩, rfl⟩

/-- **Modules that can be read are at most as many as there are files.** -/
theorem length_le_fileCount {store : FlatStore} {ids : List ModuleId} (hnodup : ids.Nodup)
    (hcanonical : ∀ id ∈ ids, IsCanonical id)
    (hreads : ∀ id ∈ ids, ∃ source, FlatStore.read store id = .ok source) :
    ids.length ≤ store.fileCount := by
  have hkeys : (ids.map FlatStore.key).Nodup :=
    List.Nodup.map_on (fun a ha b hb h =>
      FlatStore.key_injective (hcanonical a ha) (hcanonical b hb) h) hnodup
  have hsub : ids.map FlatStore.key ⊆ fileKeys store := by
    intro k hk
    obtain ⟨id, hid, rfl⟩ := List.mem_map.1 hk
    obtain ⟨source, hread⟩ := hreads id hid
    exact key_mem_fileKeys hread
  have hlength := (hkeys.subperm hsub).length_le
  rwa [List.length_map, length_fileKeys] at hlength

/-- There are no more modules than files, since each was read from its own. -/
lemma Exploring.length_le {entry : ModuleId} {frames : List Frame} {d : Discovery}
    (habs : r.cwd.isAbsolute = true) (hentry : IsCanonical entry)
    (h : Exploring r compile entry frames d) : d.graph.ids.length ≤ r.store.fileCount := by
  have hcanonical : ∀ id ∈ d.graph.ids, IsCanonical id := fun id hid =>
    isCanonical_of_reachable r compile habs hentry (h.of_mem_ids id hid).1
  exact length_le_fileCount d.graph.ids_nodup hcanonical fun id hid => (h.of_mem_ids id hid).2

/-- **The loop ends**: a turn uses up a file or shortens the stack. -/
theorem exists_run {entry : ModuleId} (habs : r.cwd.isAbsolute = true)
    (hentry : IsCanonical entry) (frames : List Frame) (d : Discovery)
    (h : Exploring r compile entry frames d) :
    ∃ outcome, run r compile frames d = some outcome := by
  cases hturn : turn r compile frames d with
  | halt outcome => exact ⟨outcome, run_of_halt r compile hturn⟩
  | next frames' d' =>
      have hadvance := advance_of_turn r compile hturn
      have hnext := h.advance hadvance
      have hfiles := hnext.length_le habs hentry
      have hmeasure :
          r.store.fileCount - d'.graph.ids.length < r.store.fileCount - d.graph.ids.length
          ∨ (r.store.fileCount - d'.graph.ids.length = r.store.fileCount - d.graph.ids.length
              ∧ frames'.length < frames.length) := by
        cases hadvance with
        | closing id m _ d =>
            right
            rw [close, DependencyGraph.ids_finish]
            simp
        | meeting id importer _ d hmem =>
            right
            rw [graph_revisit]
            simp
        -- The graph grows by a file, and never has more than there are.
        | entering id importer rest d unit hnew hunit =>
            left
            have hids : (d.graph.reserve id unit.code).ids.length = d.graph.ids.length + 1 := by
              rw [d.graph.ids_reserve unit.code hnew, List.length_append]
              rfl
            change (d.graph.reserve id unit.code).ids.length ≤ _ at hfiles
            change r.store.fileCount - (d.graph.reserve id unit.code).ids.length < _
            omega
      rw [run_of_next r compile hturn]
      exact exists_run habs hentry frames' d' hnext
termination_by (r.store.fileCount - d.graph.ids.length, frames.length)
decreasing_by
  rw [Prod.lex_def]
  exact hmeasure

variable (compile) in
/-- Over a flat store every discovery comes to an end. -/
theorem exists_discover {entry : ModuleId} (habs : r.cwd.isAbsolute = true)
    (hentry : IsCanonical entry) : ∃ outcome, discover r compile entry = some outcome :=
  exists_run habs hentry _ _ (exploring_start entry)

end Flat

end Discovery

namespace Scan

open Discovery (Explored Reachable Yields)

/-- **A scan that succeeds** rests on a discovery that went well. -/
theorem scan_eq_ok_iff {σ : Type} [FileStore σ] {settings : Settings} {store : σ}
    {compile : Compiler} {found : Scan} :
    scan settings store compile = .ok found
      ↔ ∃ reached, Discovery.discover (resolver settings store) compile (entry settings store)
            = some ⟨reached, none⟩
          ∧ discovery settings store compile = ⟨reached, none⟩
          ∧ found = ⟨reached.graph, reached.cycles.map (cycleWarning settings.cwd)⟩ := by
  rw [scan, discovery]
  cases hrun : Discovery.discover (resolver settings store) compile (entry settings store) with
  | none => simp [ofOutcome]
  | some outcome =>
      obtain ⟨reached, errors⟩ := outcome
      cases errors with
      | none => simp [ofOutcome, eq_comm]
      | some errors => simp [ofOutcome]

lemma isCanonical_entry {σ : Type} [FileStore σ] {settings : Settings} (store : σ)
    (habs : settings.cwd.isAbsolute = true) : Path.IsCanonical (entry settings store) :=
  (resolver settings store).isCanonical_resolveId habs none settings.entry

lemma isCanonical_of_reachable {σ : Type} [FileStore σ] {settings : Settings} {store : σ}
    {compile : Compiler} (habs : settings.cwd.isAbsolute = true) {id : ModuleId}
    (h : Reachable (resolver settings store) compile (entry settings store) id) :
    Path.IsCanonical id :=
  Discovery.isCanonical_of_reachable (resolver settings store) compile habs
    (isCanonical_entry store habs) h

/-- A scan that succeeds has explored everything. -/
lemma explored_of_scan {σ : Type} [FileStore σ] {settings : Settings} {store : σ}
    {compile : Compiler} {reached : Discovery}
    (h : Discovery.discover (resolver settings store) compile (entry settings store)
      = some ⟨reached, none⟩) :
    Explored (resolver settings store) compile (entry settings store) reached := by
  rcases Discovery.explored_or_failed h with ⟨-, h⟩ | ⟨herrors, -⟩
  · exact h
  · cases herrors

/-- A scan of a flat store succeeds exactly if all that can be reached can be read and
    compiled. -/
lemma exists_scan_iff (settings : Settings) (store : FlatStore) (compile : Compiler)
    (habs : settings.cwd.isAbsolute = true) :
    (∃ found, scan settings store compile = .ok found)
      ↔ ∀ id, Reachable (resolver settings store) compile (entry settings store) id →
          ∃ unit, Yields (resolver settings store) compile id unit := by
  constructor
  · rintro ⟨found, hscan⟩ id hid
    obtain ⟨reached, hrun, -, -⟩ := scan_eq_ok_iff.1 hscan
    have hexplored := explored_of_scan hrun
    obtain ⟨record, hrecord⟩ :=
      DependencyGraph.exists_get?_of_mem_ids ((hexplored.mem_ids id).2 hid)
    obtain ⟨unit, hunit, -⟩ := hexplored.records id record hrecord
    exact ⟨unit, hunit⟩
  · intro hall
    obtain ⟨outcome, hrun⟩ := Discovery.exists_discover (r := resolver settings store) compile habs
      (isCanonical_entry store habs)
    rcases Discovery.explored_or_failed hrun with ⟨herrors, -⟩ | ⟨-, id, hid, hnone⟩
    · obtain ⟨reached, errors⟩ := outcome
      cases herrors
      exact ⟨_, scan_eq_ok_iff.2 ⟨reached, hrun, by rw [discovery, hrun]; rfl, rfl⟩⟩
    · obtain ⟨unit, hunit⟩ := hall id hid
      exact absurd hunit (hnone unit)

/-- A project whose entry imports nothing is scanned as a graph of one module. -/
lemma exists_scan_sole {settings : Settings} {store : FlatStore} {compile : Compiler}
    {id : ModuleId} {source code : String} (habs : settings.cwd.isAbsolute = true)
    (hentry : entry settings store = id) (hread : FlatStore.read store id = .ok source)
    (hcompile : compile id source = .ok ⟨code, []⟩) :
    ∃ found, scan settings store compile = .ok found
      ∧ found.graph.get? id = some ⟨code, .empty⟩ := by
  subst hentry
  have hunit : Yields (resolver settings store) compile (entry settings store) ⟨code, []⟩ :=
    ⟨source, hread, hcompile⟩
  have hsole : ∀ id, Reachable (resolver settings store) compile (entry settings store) id →
      id = entry settings store := by
    intro id hid
    induction hid with
    | entry => rfl
    | step _ hunit' himport ih =>
        subst ih
        cases hunit'.unique hunit
        cases himport
  obtain ⟨found, hscan⟩ := (exists_scan_iff settings store compile habs).2 fun id hid =>
    ⟨_, (hsole id hid).symm ▸ hunit⟩
  obtain ⟨reached, hrun, -, rfl⟩ := scan_eq_ok_iff.1 hscan
  have hexplored := explored_of_scan hrun
  obtain ⟨record, hrecord⟩ :=
    DependencyGraph.exists_get?_of_mem_ids ((hexplored.mem_ids _).2 .entry)
  obtain ⟨unit', hunit', rfl⟩ := hexplored.records _ record hrecord
  cases hunit'.unique hunit
  exact ⟨_, hscan, hrecord⟩

/-! ## The scanned graph -/

/-- **The scanned graph is what can be reached.**  A scan of a flat store succeeds exactly if
    every reachable module can be read and compiled.  Its graph then has the reachable modules,
    each once, with one call of the compiler for each, in the same order; the record of a module
    has its compiled code and, in the order of their first occurrence, its distinct specifiers
    with the modules of the graph that they stand for; and no two modules are one entry of the
    store. -/
theorem scan_closure (settings : Settings) (store : FlatStore) (compile : Compiler)
    (habs : settings.cwd.isAbsolute = true) :
    ((∃ found, scan settings store compile = .ok found)
      ↔ ∀ id, Reachable (resolver settings store) compile (entry settings store) id →
          ∃ unit, Yields (resolver settings store) compile id unit)
    ∧ ∀ found, scan settings store compile = .ok found →
        found.graph.ids.Nodup
        ∧ (∀ id, id ∈ found.graph.ids
            ↔ Reachable (resolver settings store) compile (entry settings store) id)
        ∧ (discovery settings store compile).reached.compiled = found.graph.ids
        ∧ (∀ id ∈ found.graph.ids, ∃ source unit record,
            FlatStore.read store id = .ok source ∧ compile id source = .ok unit
            ∧ found.graph.get? id = some record ∧ record.code = unit.code
            ∧ record.importMap.toList = unit.imports.eraseDups.map (fun s =>
                (s, (resolver settings store).resolveId (some id) s))
            ∧ ∀ target ∈ record.importMap.values, target ∈ found.graph.ids)
        ∧ ∀ a ∈ found.graph.ids, ∀ b ∈ found.graph.ids,
            FlatStore.key a = FlatStore.key b → a = b := by
  refine ⟨exists_scan_iff settings store compile habs, ?_⟩
  intro found hscan
  obtain ⟨reached, hrun, hdiscovery, rfl⟩ := scan_eq_ok_iff.1 hscan
  have hexplored := explored_of_scan hrun
  have hcanonical : ∀ id ∈ reached.graph.ids, Path.IsCanonical id := fun id hid =>
    isCanonical_of_reachable habs ((hexplored.mem_ids id).1 hid)
  refine ⟨reached.graph.ids_nodup, hexplored.mem_ids, ?_, ?_, ?_⟩
  · rw [hdiscovery]
    exact hexplored.compiled
  · intro id hid
    obtain ⟨record, hrecord⟩ := DependencyGraph.exists_get?_of_mem_ids hid
    obtain ⟨unit, ⟨source, hread, hcompile⟩, rfl⟩ := hexplored.records id record hrecord
    exact ⟨source, unit, _, hread, hcompile, hrecord, rfl,
      Discovery.toList_importMapOf _ id unit.imports, hexplored.targets id _ hrecord⟩
  · intro a ha b hb hkey
    exact FlatStore.key_injective (hcanonical a ha) (hcanonical b hb) hkey

/-! ## A pair of modules -/

/-- Settings for the two modules. -/
def pairSettings : Settings := ⟨"a", ⟨"/p"⟩, "dist", "bundle.js"⟩

/-- A small project: two modules, each of which is the specifier of the other. -/
def pairStore : FlatStore :=
  ⟨.ofList [("", .directory), ("/p", .directory), ("/p/a.js", .file "./b".toUTF8),
    ("/p/b.js", .file "./a".toUTF8)]⟩

/-- A compiler that takes a whole source for a specifier. -/
def compileSpecifier : Compiler := fun _ source => .ok ⟨source, [source]⟩

lemma read_pairStore {p : Path} {k source : String} (hkey : FlatStore.key p = k)
    (hget : pairStore.entries.get? k = some (.file source.toUTF8)) :
    FlatStore.read pairStore p = .ok source := by
  rw [FlatStore.read_eq_ok_iff, hkey, hget]

lemma yields_pair_a :
    Yields (resolver pairSettings pairStore) compileSpecifier ⟨"/p/a.js"⟩ ⟨"./b", ["./b"]⟩ := by
  refine ⟨"./b", read_pairStore (k := "/p/a.js") (by decide +kernel) ?_, rfl⟩
  simp [pairStore, OrderedMap.ofList, OrderedMap.get?_insert]

lemma yields_pair_b :
    Yields (resolver pairSettings pairStore) compileSpecifier ⟨"/p/b.js"⟩ ⟨"./a", ["./a"]⟩ := by
  refine ⟨"./a", read_pairStore (k := "/p/b.js") (by decide +kernel) ?_, rfl⟩
  simp [pairStore, OrderedMap.ofList, OrderedMap.get?_insert]

/-- From one of the two modules, nothing but the two can be reached. -/
lemma reachable_pair_iff (id : ModuleId) :
    Reachable (resolver pairSettings pairStore) compileSpecifier (entry pairSettings pairStore) id
      ↔ id = ⟨"/p/a.js"⟩ ∨ id = ⟨"/p/b.js"⟩ := by
  have hentry : entry pairSettings pairStore = ⟨"/p/a.js"⟩ := by decide +kernel
  have ha : (resolver pairSettings pairStore).resolveId (some ⟨"/p/b.js"⟩) "./a" = ⟨"/p/a.js"⟩ := by
    decide +kernel
  have hb : (resolver pairSettings pairStore).resolveId (some ⟨"/p/a.js"⟩) "./b" = ⟨"/p/b.js"⟩ := by
    decide +kernel
  constructor
  · intro h
    induction h with
    | entry => exact .inl hentry
    | step _ hunit himport ih =>
        rcases ih with rfl | rfl
        · cases hunit.unique yields_pair_a
          rw [List.mem_singleton.1 himport]
          exact .inr hb
        · cases hunit.unique yields_pair_b
          rw [List.mem_singleton.1 himport]
          exact .inl ha
  · rintro (rfl | rfl)
    · exact hentry ▸ .entry
    · rw [← hb]
      exact .step (hentry ▸ .entry) yields_pair_a (by simp)

lemma exists_scan_pair : ∃ found, scan pairSettings pairStore compileSpecifier = .ok found := by
  refine (exists_scan_iff pairSettings pairStore compileSpecifier (by decide +kernel)).2 ?_
  intro id hid
  rcases (reachable_pair_iff id).1 hid with rfl | rfl
  · exact ⟨_, yields_pair_a⟩
  · exact ⟨_, yields_pair_b⟩

/-- Two modules that import each other are a graph of two. -/
theorem scan_closure_pair :
    pairSettings.cwd.isAbsolute = true
      ∧ ∃ found, scan pairSettings pairStore compileSpecifier = .ok found
        ∧ ∀ id, id ∈ found.graph.ids ↔ id = ⟨"/p/a.js"⟩ ∨ id = ⟨"/p/b.js"⟩ := by
  have habs : pairSettings.cwd.isAbsolute = true := by decide +kernel
  obtain ⟨hsuccess, hfound⟩ := scan_closure pairSettings pairStore compileSpecifier habs
  obtain ⟨found, hscan⟩ := hsuccess.2 fun id hid => by
    rcases (reachable_pair_iff id).1 hid with rfl | rfl
    · exact ⟨_, yields_pair_a⟩
    · exact ⟨_, yields_pair_b⟩
  refine ⟨habs, found, hscan, fun id => ?_⟩
  rw [(hfound found hscan).2.1, reachable_pair_iff]

end Scan

end ModuleBundler
