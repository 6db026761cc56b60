import ModuleBundler.Graph.Discovery
import ModuleBundler.Proofs.OrderedMap

/-!
# The turns of a discovery

What one turn of the loop can do, said once, so that no invariant has to look into the loop again.

**The graph.**  Reserving appends a new id, finishing keeps the ids, and both leave the entry.

**Import maps.**  `toList_importMapOf`: the distinct specifiers in the order of their first
occurrence, each with the module that it stands for.

**Turns.**  `Advance` lists the three turns that go on: closing a module, meeting one again, and
entering a new one.  A turn that ends the loop found an empty stack, or a module that cannot be
read and compiled (`turn_halt`).  What every turn keeps still holds at the last one
(`exists_last_turn`), and `run_invariant` carries it to the outcome.
-/

namespace ModuleBundler

namespace DependencyGraph

@[simp] lemma contains_iff_mem_ids (g : DependencyGraph) (id : ModuleId) :
    g.contains id = true ↔ id ∈ g.ids :=
  OrderedMap.contains_iff_mem_keys g.modules id

@[simp] lemma ids_new (entry : ModuleId) : (new entry).ids = [] := rfl

lemma ids_nodup (g : DependencyGraph) : g.ids.Nodup := g.modules.keys_nodup

@[simp] lemma ids_finish (g : DependencyGraph) (id : ModuleId) (m : ImportMap) :
    (g.finish id m).ids = g.ids :=
  OrderedMap.keys_modify _ _ _

lemma reserve_of_notMem (g : DependencyGraph) {id : ModuleId} (code : String) (h : id ∉ g.ids) :
    g.reserve id code = { g with modules := g.modules.insert id ⟨code, .empty⟩ } :=
  if_neg fun hc => h ((contains_iff_mem_ids g id).1 hc)

lemma ids_reserve (g : DependencyGraph) {id : ModuleId} (code : String) (h : id ∉ g.ids) :
    (g.reserve id code).ids = g.ids ++ [id] := by
  rw [reserve_of_notMem g code h]
  exact (OrderedMap.keys_insert _ _ _).trans (if_neg h)

lemma entry_reserve (g : DependencyGraph) (id : ModuleId) (code : String) :
    (g.reserve id code).entry = g.entry := by
  unfold reserve
  split <;> rfl

/-- A reservation holds the code, and no imports yet. -/
lemma get?_reserve (g : DependencyGraph) {id : ModuleId} (code : String) (h : id ∉ g.ids)
    (id' : ModuleId) :
    (g.reserve id code).get? id' = if id = id' then some ⟨code, .empty⟩ else g.get? id' := by
  rw [reserve_of_notMem g code h]
  exact OrderedMap.get?_insert _ _ _ _

lemma get?_finish (g : DependencyGraph) (id : ModuleId) (m : ImportMap) (id' : ModuleId) :
    (g.finish id m).get? id'
      = if id = id' then (g.get? id').map fun record => { record with importMap := m }
        else g.get? id' :=
  OrderedMap.get?_modify _ _ _ _

lemma mem_ids_of_get? {g : DependencyGraph} {id : ModuleId} {record : ModuleRecord}
    (h : g.get? id = some record) : id ∈ g.ids :=
  OrderedMap.mem_keys_of_get? h

lemma exists_get?_of_mem_ids {g : DependencyGraph} {id : ModuleId} (h : id ∈ g.ids) :
    ∃ record, g.get? id = some record :=
  OrderedMap.exists_get?_of_mem_keys h

end DependencyGraph

namespace Discovery

variable {σ : Type} [FileStore σ] (r : Resolver σ) (compile : Compiler)

/-- The module can be read and compiled, and this is what the compiler makes of it. -/
def Yields (id : ModuleId) (unit : CompiledModule) : Prop :=
  ∃ source, FileStore.read r.store id = .ok source ∧ compile id source = .ok unit

variable {r compile} in
/-- **What a module yields is determined.** -/
lemma Yields.unique {id : ModuleId} {u v : CompiledModule} (hu : Yields r compile id u)
    (hv : Yields r compile id v) : u = v := by
  obtain ⟨s, hs, hu⟩ := hu
  obtain ⟨t, ht, hv⟩ := hv
  rw [hs] at ht
  cases ht
  rw [hu] at hv
  cases hv
  rfl

/-! ## Import maps -/

/-- An import map with further specifiers. -/
def extend (id : ModuleId) (known : ImportMap) (imports : List String) : ImportMap :=
  imports.foldl (fun known specifier =>
    if known.contains specifier then known
    else known.insert specifier (r.resolveId (some id) specifier)) known

/-- The specifiers that a map does not have yet, each once and in order. -/
def unknown (known : ImportMap) (imports : List String) : List String :=
  (imports.filter fun s => s ∉ known.keys).eraseDups

lemma unknown_cons_of_mem {known : ImportMap} {s : String} (rest : List String)
    (h : s ∈ known.keys) : unknown known (s :: rest) = unknown known rest := by
  rw [unknown, unknown, List.filter_cons_of_neg (by simpa using h)]

/-- A specifier that is not known yet is looked up, and known from then on. -/
lemma unknown_cons_of_notMem {known : ImportMap} {s : String} (rest : List String)
    (target : ModuleId) (h : s ∉ known.keys) :
    unknown known (s :: rest) = s :: unknown (known.insert s target) rest := by
  rw [unknown, unknown, List.filter_cons_of_pos (by simpa using h), List.eraseDups_cons,
    List.filter_filter]
  congr 2
  refine List.filter_congr fun t _ => ?_
  rw [OrderedMap.keys_insert, if_neg h]
  by_cases hs : t = s <;> simp [hs]

/-- An extension appends the unknown specifiers with their modules. -/
lemma toList_extend (id : ModuleId) (imports : List String) (known : ImportMap) :
    (extend r id known imports).toList
      = known.toList ++ (unknown known imports).map fun s => (s, r.resolveId (some id) s) := by
  induction imports generalizing known with
  | nil => simp [extend, unknown]
  | cons s rest ih =>
      rw [extend, List.foldl_cons, ← extend]
      by_cases h : s ∈ known.keys
      · rw [if_pos ((OrderedMap.contains_iff_mem_keys _ _).2 h), ih, unknown_cons_of_mem rest h]
      · rw [if_neg fun hc => h ((OrderedMap.contains_iff_mem_keys _ _).1 hc), ih,
          unknown_cons_of_notMem rest (r.resolveId (some id) s) h,
          OrderedMap.toList_insert_of_notMem _ _ h]
        simp

/-- **The import map of a module**: its distinct specifiers in the order of their first
    occurrence, each with the module that it stands for. -/
theorem toList_importMapOf (id : ModuleId) (imports : List String) :
    (importMapOf r id imports).toList
      = imports.eraseDups.map fun s => (s, r.resolveId (some id) s) := by
  have h := toList_extend r id imports .empty
  simpa [extend, unknown, importMapOf] using h

lemma get?_importMapOf {id : ModuleId} {imports : List String} {s : String} {target : ModuleId}
    (h : (importMapOf r id imports).get? s = some target) :
    s ∈ imports ∧ target = r.resolveId (some id) s := by
  rw [OrderedMap.get?_eq_some_iff_mem, toList_importMapOf, List.mem_map] at h
  obtain ⟨t, ht, he⟩ := h
  cases he
  exact ⟨List.mem_eraseDups.1 ht, rfl⟩

lemma mem_values_importMapOf {id : ModuleId} {imports : List String} {target : ModuleId} :
    target ∈ (importMapOf r id imports).values
      ↔ ∃ s ∈ imports, target = r.resolveId (some id) s := by
  rw [OrderedMap.values_eq_map, toList_importMapOf, List.map_map]
  constructor
  · intro h
    obtain ⟨s, hs, rfl⟩ := List.mem_map.1 h
    exact ⟨s, List.mem_eraseDups.1 hs, rfl⟩
  · rintro ⟨s, hs, rfl⟩
    exact List.mem_map.2 ⟨s, List.mem_eraseDups.2 hs, rfl⟩

/-! ## Turns -/

/-- Meeting a module again changes nothing but the cycles. -/
lemma exists_revisit (d : Discovery) (id : ModuleId) :
    ∃ cycles, d.revisit id = { d with cycles := cycles } := by
  unfold revisit noteCycle
  split
  · split
    · exact ⟨d.cycles, rfl⟩
    · exact ⟨_, rfl⟩
  · exact ⟨d.cycles, rfl⟩

@[simp] lemma graph_revisit (d : Discovery) (id : ModuleId) : (d.revisit id).graph = d.graph := by
  obtain ⟨cycles, h⟩ := exists_revisit d id
  rw [h]

@[simp] lemma compiled_revisit (d : Discovery) (id : ModuleId) :
    (d.revisit id).compiled = d.compiled := by
  obtain ⟨cycles, h⟩ := exists_revisit d id
  rw [h]

@[simp]
lemma opened_revisit (d : Discovery) (id : ModuleId) : (d.revisit id).opened = d.opened := by
  obtain ⟨cycles, h⟩ := exists_revisit d id
  rw [h]

/-- **A turn that goes on**: what it finds on the stack, and what it leaves. -/
inductive Advance : List Frame → Discovery → List Frame → Discovery → Prop
  | closing (id : ModuleId) (m : ImportMap) (rest : List Frame) (d : Discovery) :
      Advance (.finish id m :: rest) d rest (d.close id m)
  | meeting (id : ModuleId) (importer : Option ModuleId) (rest : List Frame) (d : Discovery)
      (hmem : id ∈ d.graph.ids) : Advance (.visit id importer :: rest) d rest (d.revisit id)
  | entering (id : ModuleId) (importer : Option ModuleId) (rest : List Frame) (d : Discovery)
      (unit : CompiledModule) (hnew : id ∉ d.graph.ids) (hunit : Yields r compile id unit) :
      Advance (.visit id importer :: rest) d
        (framesOf id (importMapOf r id unit.imports) ++ rest)
        ({ d with compiled := d.compiled ++ [id] }.enter id unit.code)

/-- What reading and compiling a module leads to, if it goes well. -/
lemma expand_ok {d reached : Discovery} {id : ModuleId} {importer : Option ModuleId}
    {frames : List Frame} (h : expand r compile d id importer = (reached, .ok frames)) :
    ∃ unit, Yields r compile id unit
      ∧ frames = framesOf id (importMapOf r id unit.imports)
      ∧ reached = { d with compiled := d.compiled ++ [id] }.enter id unit.code := by
  unfold expand readSource at h
  cases hread : FileStore.read r.store id with
  | error cause => simp [hread, Except.mapError] at h
  | ok source =>
      simp only [hread, Except.mapError] at h
      cases hcompile : compile id source with
      | error errors => simp [hcompile] at h
      | ok unit =>
          simp only [hcompile, Prod.mk.injEq, Except.ok.injEq] at h
          exact ⟨unit, ⟨source, hread, hcompile⟩, h.2.symm, h.1.symm⟩

/-- A module that yields something is entered with its code, and its imports are to be visited. -/
lemma expand_of_yields (d : Discovery) {id : ModuleId} (importer : Option ModuleId)
    {unit : CompiledModule} (h : Yields r compile id unit) :
    expand r compile d id importer
      = ({ d with compiled := d.compiled ++ [id] }.enter id unit.code,
          .ok (framesOf id (importMapOf r id unit.imports))) := by
  obtain ⟨source, hread, hcompile⟩ := h
  simp [expand, readSource, hread, hcompile, Except.mapError]

/-- A turn that goes on is one of the three. -/
lemma advance_of_turn {frames frames' : List Frame} {d d' : Discovery}
    (h : turn r compile frames d = .next frames' d') : Advance r compile frames d frames' d' := by
  match frames with
  | [] => cases h
  | .finish id m :: rest =>
      cases h
      exact .closing id m _ d
  | .visit id importer :: rest =>
      rw [turn] at h
      split at h
      · next hmem =>
          cases h
          exact .meeting id importer _ d ((DependencyGraph.contains_iff_mem_ids _ _).1 hmem)
      · next hnew =>
          cases hexpand : expand r compile d id importer with
          | mk reached answer =>
              cases answer with
              | error errors => simp [hexpand] at h
              | ok pushed =>
                  simp only [hexpand, Turn.next.injEq] at h
                  obtain ⟨unit, hunit, hpushed, hreached⟩ := expand_ok r compile hexpand
                  obtain ⟨rfl, rfl⟩ := h
                  rw [hpushed, hreached]
                  exact .entering id importer rest d unit
                    (fun hm => hnew ((DependencyGraph.contains_iff_mem_ids _ _).2 hm)) hunit

/-- A turn that ends the loop found an empty stack, or a new module that cannot be read and
    compiled. -/
lemma turn_halt {frames : List Frame} {d : Discovery} {outcome : Outcome}
    (h : turn r compile frames d = .halt outcome) :
    (frames = [] ∧ outcome = ⟨d, none⟩)
      ∨ (outcome.errors.isSome ∧ ∃ id importer rest, frames = .visit id importer :: rest
          ∧ id ∉ d.graph.ids ∧ ∀ unit, ¬ Yields r compile id unit) := by
  match frames with
  | [] =>
      cases h
      exact .inl ⟨rfl, rfl⟩
  | .finish id m :: rest => cases h
  | .visit id importer :: rest =>
      rw [turn] at h
      split at h
      · cases h
      · next hnew =>
          cases hexpand : expand r compile d id importer with
          | mk reached answer =>
              cases answer with
              | ok pushed => simp [hexpand] at h
              | error errors =>
                  simp only [hexpand, Turn.halt.injEq] at h
                  subst h
                  refine .inr ⟨rfl, id, importer, rest, rfl, ?_, ?_⟩
                  · exact fun hm => hnew ((DependencyGraph.contains_iff_mem_ids _ _).2 hm)
                  · intro unit hunit
                    rw [expand_of_yields r compile d importer hunit] at hexpand
                    cases hexpand

lemma run_of_halt {frames : List Frame} {d : Discovery} {outcome : Outcome}
    (h : turn r compile frames d = .halt outcome) : run r compile frames d = some outcome := by
  rw [run, h]

lemma run_of_next {frames frames' : List Frame} {d d' : Discovery}
    (h : turn r compile frames d = .next frames' d') :
    run r compile frames d = run r compile frames' d' := by
  rw [run, h]

variable {r compile}

/-- **A run that ends has a last turn**, at which whatever every turn keeps still holds. -/
theorem exists_last_turn {P : List Frame → Discovery → Prop}
    (hnext : ∀ frames d frames' d', P frames d → turn r compile frames d = .next frames' d' →
      P frames' d')
    {frames : List Frame} {d : Discovery} {outcome : Outcome}
    (h : run r compile frames d = some outcome) (hP : P frames d) :
    ∃ frames d, P frames d ∧ turn r compile frames d = .halt outcome := by
  refine run.partial_correctness r compile (fun frames d outcome => P frames d →
    ∃ frames d, P frames d ∧ turn r compile frames d = .halt outcome) ?_ frames d outcome h hP
  intro again ih frames d outcome hrun hP
  cases hturn : turn r compile frames d with
  | halt o =>
      rw [hturn] at hrun
      cases hrun
      exact ⟨frames, d, hP, hturn⟩
  | next frames' d' =>
      rw [hturn] at hrun
      exact ih frames' d' outcome hrun (hnext _ _ _ _ hP hturn)

variable (r compile) in
/-- **What every turn keeps reaches the outcome.** -/
theorem run_invariant {P : List Frame → Discovery → Prop} {Q : Outcome → Prop}
    (hnext : ∀ frames d frames' d', Advance r compile frames d frames' d' →
      P frames d → P frames' d')
    (hhalt : ∀ frames d outcome, turn r compile frames d = .halt outcome →
      P frames d → Q outcome)
    {frames : List Frame} {d : Discovery} {outcome : Outcome}
    (h : run r compile frames d = some outcome) (hP : P frames d) : Q outcome := by
  obtain ⟨last, reached, hlast, hturn⟩ := exists_last_turn (fun _ _ _ _ hP hturn =>
    hnext _ _ _ _ (advance_of_turn r compile hturn) hP) h hP
  exact hhalt last reached outcome hturn hlast

end Discovery

end ModuleBundler
