import ModuleBundler.Proofs.Graph.Closure

/-!
# Discovering the same project elsewhere

Two places may hold the same project under different ids.  A relocation gives each module that can
be reached in the one place its id in the other, so that the modules yield the same code and the
same specifiers there, and every specifier leads to the relocated target.

**In step.**  The turns of the two discoveries are the same turns on relocated stacks
(`turn_relocate`): a relocation is injective on what can be reached, so an id is met again in the
one place exactly if it is in the other, and a cycle is known in the one exactly if it is in the
other.

**The outcome.**  A discovery that goes well in the one place goes well in the other, and has found
the relocated graph and the relocated cycles (`discover_relocate`).
-/

namespace ModuleBundler

variable {σ τ : Type} [FileStore σ] [FileStore τ]

/-- A record whose targets are renamed. -/
def ModuleRecord.relocate (f : ModuleId → ModuleId) (record : ModuleRecord) : ModuleRecord :=
  ⟨record.code, record.importMap.mapValues f⟩

/-- A step that is left to do, with its modules renamed. -/
def Frame.relocate (f : ModuleId → ModuleId) : Frame → Frame
  | .visit id importer => .visit (f id) (importer.map f)
  | .finish id m => .finish (f id) (m.mapValues f)

namespace Discovery

/-- **A relocation** of what can be reached from an entry. -/
structure Relocation (r : Resolver σ) (compile : Compiler) (entry : ModuleId) (r' : Resolver τ)
    (compile' : Compiler) (f : ModuleId → ModuleId) : Prop where
  injective : ∀ a b, Reachable r compile entry a → Reachable r compile entry b → f a = f b → a = b
  yields : ∀ id unit, Reachable r compile entry id → Yields r compile id unit →
    Yields r' compile' (f id) unit
  resolve : ∀ id unit specifier, Reachable r compile entry id → Yields r compile id unit →
    specifier ∈ unit.imports →
      r'.resolveId (some (f id)) specifier = f (r.resolveId (some id) specifier)

/-- **How far two discoveries have come**, if they are the same up to a relocation. -/
structure Relocated (f : ModuleId → ModuleId) (d d' : Discovery) : Prop where
  entry : d'.graph.entry = f d.graph.entry
  modules : d'.graph.modules.toList = d.graph.modules.toList.map fun e => (f e.1, e.2.relocate f)
  opened : d'.opened = d.opened.map f
  cycles : d'.cycles = d.cycles.map (List.map f)
  compiled : d'.compiled = d.compiled.map f

/-- Every id that a discovery has to do with can be reached. -/
structure Within (r : Resolver σ) (compile : Compiler) (entry : ModuleId) (frames : List Frame)
    (d : Discovery) : Prop where
  visits : ∀ id importer, .visit id importer ∈ frames → Reachable r compile entry id
  finishes : ∀ id m, .finish id m ∈ frames → Reachable r compile entry id
  ids : ∀ id ∈ d.graph.ids, Reachable r compile entry id
  opened : ∀ id ∈ d.opened, Reachable r compile entry id
  cycles : ∀ cycle ∈ d.cycles, ∀ id ∈ cycle, Reachable r compile entry id

variable {r : Resolver σ} {compile : Compiler} {entry : ModuleId} {r' : Resolver τ}
  {compile' : Compiler} {f : ModuleId → ModuleId}

/-! ## Everything can be reached -/

namespace Within

lemma start (entry : ModuleId) :
    Within r compile entry [.visit entry none] (Discovery.start entry) where
  visits id importer h := by
    cases List.mem_singleton.1 h
    exact .entry
  finishes id m h := nomatch List.mem_singleton.1 h
  ids id h := nomatch h
  opened id h := nomatch h
  cycles cycle h := nomatch h

/-- A cycle that is noted leads along open modules. -/
lemma noteCycle {d : Discovery} {cycle : List ModuleId}
    (hcycles : ∀ c ∈ d.cycles, ∀ id ∈ c, Reachable r compile entry id)
    (hcycle : ∀ id ∈ cycle, Reachable r compile entry id) :
    ∀ c ∈ (d.noteCycle cycle).cycles, ∀ id ∈ c, Reachable r compile entry id := by
  intro c hc
  unfold Discovery.noteCycle at hc
  split at hc
  · exact hcycles c hc
  · rcases List.mem_append.1 hc with hc | hc
    · exact hcycles c hc
    · cases List.mem_singleton.1 hc
      exact hcycle

/-- **Every turn stays within what can be reached.** -/
theorem advance {frames frames' : List Frame} {d d' : Discovery}
    (hturn : Advance r compile frames d frames' d') (h : Within r compile entry frames d) :
    Within r compile entry frames' d' := by
  cases hturn with
  | closing id m _ d =>
      refine ⟨fun t i ht => h.visits t i (by simp [ht]),
        fun t m ht => h.finishes t m (by simp [ht]), fun t ht => h.ids t ?_,
         fun t ht => h.opened t (List.dropLast_subset _ ht), h.cycles⟩
      rwa [close, DependencyGraph.ids_finish] at ht
  | meeting id importer _ d hmem =>
      refine ⟨fun t i ht => h.visits t i (by simp [ht]),
        fun t m ht => h.finishes t m (by simp [ht]), fun t ht => h.ids t ?_,
        fun t ht => h.opened t ?_, ?_⟩
      · rwa [graph_revisit] at ht
      · rwa [opened_revisit] at ht
      · rw [revisit]
        split
        · refine noteCycle h.cycles fun t ht => ?_
          rcases List.mem_append.1 ht with ht | ht
          · exact h.opened t (List.dropWhile_sublist _ |>.subset ht)
          · cases List.mem_singleton.1 ht
            exact h.ids id hmem
        · exact h.cycles
  | entering id importer rest d unit hnew hunit =>
      have hreach : Reachable r compile entry id := h.visits id importer (by simp)
      refine ⟨fun t i ht => ?_, fun t m ht => ?_, fun t ht => ?_, fun t ht => ?_, h.cycles⟩
      · rcases List.mem_append.1 ht with ht | ht
        · obtain ⟨s, hs, rfl⟩ := (mem_values_importMapOf r).1 (mem_framesOf_visit ht)
          exact .step hreach hunit hs
        · exact h.visits t i (by simp [ht])
      · rcases List.mem_append.1 ht with ht | ht
        · rw [(mem_framesOf_finish ht).1]
          exact hreach
        · exact h.finishes t m (by simp [ht])
      · change t ∈ (d.graph.reserve id unit.code).ids at ht
        rw [d.graph.ids_reserve unit.code hnew] at ht
        rcases List.mem_append.1 ht with ht | ht
        · exact h.ids t ht
        · rw [List.mem_singleton.1 ht]
          exact hreach
      · rcases List.mem_append.1 ht with ht | ht
        · exact h.opened t ht
        · rw [List.mem_singleton.1 ht]
          exact hreach

/-- The cycles that were noted lead along modules that can be reached. -/
theorem reachable_of_mem_cycle {reached : Discovery}
    (hrun : discover r compile entry = some ⟨reached, none⟩) {cycle : List ModuleId}
    (hcycle : cycle ∈ reached.cycles) {id : ModuleId} (hid : id ∈ cycle) :
    Reachable r compile entry id := by
  have hcycles := run_invariant r compile (P := Within r compile entry)
    (Q := fun outcome => outcome.errors = none →
      ∀ c ∈ outcome.reached.cycles, ∀ id ∈ c, Reachable r compile entry id)
    (fun _ _ _ _ hturn h => h.advance hturn)
    (fun frames d outcome hturn h hok => by
      rcases turn_halt r compile hturn with ⟨rfl, rfl⟩ | ⟨herrors, -⟩
      · exact h.cycles
      · rw [hok] at herrors
        cases herrors)
    hrun (.start entry) rfl
  exact hcycles cycle hcycle id hid

end Within

/-! ## In step -/

section Step

variable (hf : Relocation r compile entry r' compile' f)
include hf

/-- Among lists of reachable ids, a relocated list is that of one list only. -/
lemma Relocation.map_injective {as bs : List ModuleId}
    (has : ∀ id ∈ as, Reachable r compile entry id) (hbs : ∀ id ∈ bs, Reachable r compile entry id)
    (h : as.map f = bs.map f) : as = bs := by
  induction as generalizing bs with
  | nil => exact (List.map_eq_nil_iff.1 h.symm).symm
  | cons a as ih =>
      cases bs with
      | nil => cases h
      | cons b bs =>
          obtain ⟨hhead, htail⟩ := List.cons.inj h
          rw [hf.injective a b (has a (by simp)) (hbs b (by simp)) hhead,
            ih (fun id hid => has id (by simp [hid])) (fun id hid => hbs id (by simp [hid])) htail]

/-- A relocation does not bring reachable modules together. -/
lemma Relocation.mem_map_iff {ids : List ModuleId} {id : ModuleId}
    (hids : ∀ id ∈ ids, Reachable r compile entry id) (hid : Reachable r compile entry id) :
    f id ∈ ids.map f ↔ id ∈ ids := by
  rw [List.mem_map]
  constructor
  · rintro ⟨a, ha, heq⟩
    rwa [← hf.injective a id (hids a ha) hid heq]
  · exact fun h => ⟨id, h, rfl⟩

/-- The import map of a module, in the other place. -/
lemma Relocation.importMapOf_relocate {id : ModuleId} {unit : CompiledModule}
    (hid : Reachable r compile entry id) (hunit : Yields r compile id unit) :
    importMapOf r' (f id) unit.imports = (importMapOf r id unit.imports).mapValues f := by
  refine OrderedMap.toList_injective ?_
  rw [OrderedMap.toList_mapValues, toList_importMapOf, toList_importMapOf, List.map_map]
  refine List.map_congr_left fun s hs => ?_
  rw [hf.resolve id unit s hid hunit (List.mem_eraseDups.1 hs)]
  rfl

omit hf in
lemma framesOf_relocate (id : ModuleId) (m : ImportMap) :
    framesOf (f id) (m.mapValues f) = (framesOf id m).map (Frame.relocate f) := by
  rw [framesOf, framesOf, OrderedMap.values_mapValues, List.map_append, List.map_map, List.map_map]
  rfl

omit hf in
lemma Relocated.ids {d d' : Discovery} (h : Relocated f d d') :
    d'.graph.ids = d.graph.ids.map f := by
  rw [DependencyGraph.ids, OrderedMap.keys_eq_map, h.modules, DependencyGraph.ids,
    OrderedMap.keys_eq_map, List.map_map, List.map_map]
  rfl

variable {d d' : Discovery}

lemma Relocated.mem_ids_iff (h : Relocated f d d')
    (hids : ∀ id ∈ d.graph.ids, Reachable r compile entry id) {id : ModuleId}
    (hid : Reachable r compile entry id) : f id ∈ d'.graph.ids ↔ id ∈ d.graph.ids := by
  rw [h.ids]
  exact hf.mem_map_iff hids hid

lemma Relocated.close (h : Relocated f d d')
    (hids : ∀ id ∈ d.graph.ids, Reachable r compile entry id) {id : ModuleId} (m : ImportMap)
    (hid : Reachable r compile entry id) :
    Relocated f (d.close id m) (d'.close (f id) (m.mapValues f)) where
  entry := h.entry
  modules := by
    change (d'.graph.modules.modify _ _).toList = (d.graph.modules.modify _ _).toList.map _
    rw [OrderedMap.toList_modify, OrderedMap.toList_modify, h.modules, List.map_map, List.map_map]
    refine List.map_congr_left fun e he => ?_
    have hreach := hids e.1 (List.mem_map.2 ⟨e, he, rfl⟩)
    by_cases hkey : e.1 = id
    · simp [hkey, ModuleRecord.relocate]
    · have hkey' : f e.1 ≠ f id := fun heq => hkey (hf.injective _ _ hreach hid heq)
      simp [hkey, hkey']
  opened := by
    change d'.opened.dropLast = d.opened.dropLast.map f
    rw [h.opened, List.map_dropLast]
  cycles := h.cycles
  compiled := h.compiled

lemma Relocated.noteCycle (h : Relocated f d d')
    (hcycles : ∀ c ∈ d.cycles, ∀ id ∈ c, Reachable r compile entry id) {cycle : List ModuleId}
    (hcycle : ∀ id ∈ cycle, Reachable r compile entry id) :
    Relocated f (d.noteCycle cycle) (d'.noteCycle (cycle.map f)) := by
  have hmem : cycle.map f ∈ d'.cycles ↔ cycle ∈ d.cycles := by
    rw [h.cycles, List.mem_map]
    constructor
    · rintro ⟨c, hc, heq⟩
      rwa [← hf.map_injective (hcycles c hc) hcycle heq]
    · exact fun hc => ⟨cycle, hc, rfl⟩
  unfold Discovery.noteCycle
  by_cases hknown : cycle ∈ d.cycles
  · rw [if_pos hknown, if_pos (hmem.2 hknown)]
    exact h
  · rw [if_neg hknown, if_neg (mt hmem.1 hknown)]
    refine ⟨h.entry, h.modules, h.opened, ?_, h.compiled⟩
    rw [h.cycles, List.map_append]
    rfl

lemma Relocated.revisit {frames : List Frame} (h : Relocated f d d')
    (hwithin : Within r compile entry frames d) {id : ModuleId}
    (hid : Reachable r compile entry id) : Relocated f (d.revisit id) (d'.revisit (f id)) := by
  have hmem : f id ∈ d'.opened ↔ id ∈ d.opened := by
    rw [h.opened]
    exact hf.mem_map_iff hwithin.opened hid
  have hsuffix : d'.opened.dropWhile (· ≠ f id) ++ [f id]
      = (d.opened.dropWhile (· ≠ id) ++ [id]).map f := by
    have hsame : ∀ a ∈ d.opened, decide (f a ≠ f id) = decide (a ≠ id) := by
      intro a ha
      refine decide_eq_decide.2 (not_congr ⟨hf.injective a id (hwithin.opened a ha) hid, ?_⟩)
      exact congrArg f
    have hdrop : ∀ as : List ModuleId, (∀ a ∈ as, decide (f a ≠ f id) = decide (a ≠ id)) →
        (as.map f).dropWhile (· ≠ f id) = (as.dropWhile (· ≠ id)).map f := by
      intro as has
      induction as with
      | nil => rfl
      | cons a as ih =>
          have ha := has a (by simp)
          rw [List.map_cons, List.dropWhile_cons, List.dropWhile_cons, ha,
            ih fun b hb => has b (by simp [hb])]
          split <;> rfl
    rw [h.opened, hdrop d.opened hsame, List.map_append]
    rfl
  unfold Discovery.revisit
  by_cases hopen : id ∈ d.opened
  · rw [if_pos hopen, if_pos (hmem.2 hopen), hsuffix]
    refine h.noteCycle hf hwithin.cycles fun a ha => ?_
    rcases List.mem_append.1 ha with ha | ha
    · exact hwithin.opened a ((List.dropWhile_sublist _).subset ha)
    · rw [List.mem_singleton.1 ha]
      exact hid
  · rw [if_neg hopen, if_neg (mt hmem.1 hopen)]
    exact h

lemma Relocated.entering (h : Relocated f d d')
    (hids : ∀ id ∈ d.graph.ids, Reachable r compile entry id) {id : ModuleId} (code : String)
    (hid : Reachable r compile entry id) (hnew : id ∉ d.graph.ids) :
    Relocated f ({ d with compiled := d.compiled ++ [id] }.enter id code)
      ({ d' with compiled := d'.compiled ++ [f id] }.enter (f id) code) := by
  have hnew' : f id ∉ d'.graph.ids := mt (h.mem_ids_iff hf hids hid).1 hnew
  refine ⟨?_, ?_, ?_, h.cycles, ?_⟩
  · change (d'.graph.reserve (f id) code).entry = f (d.graph.reserve id code).entry
    rw [DependencyGraph.entry_reserve, DependencyGraph.entry_reserve, h.entry]
  · change (d'.graph.reserve (f id) code).modules.toList
      = (d.graph.reserve id code).modules.toList.map _
    rw [d.graph.reserve_of_notMem code hnew, d'.graph.reserve_of_notMem code hnew',
      OrderedMap.toList_insert_of_notMem _ _ hnew, OrderedMap.toList_insert_of_notMem _ _ hnew',
      h.modules, List.map_append]
    rfl
  · change d'.opened ++ [f id] = (d.opened ++ [id]).map f
    rw [h.opened, List.map_append]
    rfl
  · change d'.compiled ++ [f id] = (d.compiled ++ [id]).map f
    rw [h.compiled, List.map_append]
    rfl

/-- **The turns are in step.** -/
theorem turn_relocate {frames frames₁ : List Frame} {d₁ : Discovery}
    (hturn : Advance r compile frames d frames₁ d₁) (hwithin : Within r compile entry frames d)
    (h : Relocated f d d') :
    ∃ d₁', turn r' compile' (frames.map (Frame.relocate f)) d'
        = .next (frames₁.map (Frame.relocate f)) d₁' ∧ Relocated f d₁ d₁' := by
  cases hturn with
  | closing id m _ d =>
      exact ⟨_, rfl, h.close hf hwithin.ids m (hwithin.finishes id m (by simp))⟩
  | meeting id importer _ d hmem =>
      have hid : Reachable r compile entry id := hwithin.ids id hmem
      have hmem' : d'.graph.contains (f id) = true :=
        (DependencyGraph.contains_iff_mem_ids _ _).2 ((h.mem_ids_iff hf hwithin.ids hid).2 hmem)
      exact ⟨_, if_pos hmem', h.revisit hf hwithin hid⟩
  | entering id importer rest d unit hnew hunit =>
      have hid : Reachable r compile entry id := hwithin.visits id importer (by simp)
      have hnew' : ¬ d'.graph.contains (f id) = true := fun hmem =>
        hnew ((h.mem_ids_iff hf hwithin.ids hid).1
          ((DependencyGraph.contains_iff_mem_ids _ _).1 hmem))
      have hunit' := hf.yields id unit hid hunit
      refine ⟨_, ?_, h.entering hf hwithin.ids unit.code hid hnew⟩
      rw [List.map_cons, Frame.relocate, turn, if_neg hnew', expand_of_yields _ _ _ _ hunit',
        hf.importMapOf_relocate hid hunit, framesOf_relocate, List.map_append]

/-- **A discovery that goes well goes well elsewhere**, and finds the same there. -/
theorem discover_relocate {reached : Discovery}
    (hrun : discover r compile entry = some ⟨reached, none⟩) :
    ∃ reached', discover r' compile' (f entry) = some ⟨reached', none⟩
      ∧ Relocated f reached reached' := by
  have hstep := run.partial_correctness r compile
    (fun frames d outcome => Within r compile entry frames d → outcome.errors = none →
      ∀ d', Relocated f d d' →
        ∃ reached', run r' compile' (frames.map (Frame.relocate f)) d' = some ⟨reached', none⟩
          ∧ Relocated f outcome.reached reached')
    ?_ [.visit entry none] (start entry) ⟨reached, none⟩ hrun
  · exact hstep (.start entry) rfl (start (f entry)) ⟨rfl, rfl, rfl, rfl, rfl⟩
  · intro again ih frames d outcome hagain hwithin hok d' h
    cases hturn : turn r compile frames d with
    | halt o =>
        rw [hturn] at hagain
        cases hagain
        rcases turn_halt r compile hturn with ⟨rfl, rfl⟩ | ⟨herrors, -⟩
        · exact ⟨d', run_of_halt r' compile' rfl, h⟩
        · rw [hok] at herrors
          cases herrors
    | next frames₁ d₁ =>
        rw [hturn] at hagain
        have hadvance := advance_of_turn r compile hturn
        obtain ⟨d₁', hturn', h₁⟩ := turn_relocate hf hadvance hwithin h
        rw [run_of_next r' compile' hturn']
        exact ih frames₁ d₁ outcome hagain (hwithin.advance hadvance) hok d₁' h₁

end Step

end Discovery

end ModuleBundler
