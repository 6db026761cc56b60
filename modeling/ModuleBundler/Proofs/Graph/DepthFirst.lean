import ModuleBundler.Proofs.Graph.Turns

/-!
# The recursion behind the stack

Discovery is depth-first search, and its plain form is a recursion: `visit` looks at one module,
`visitImports` at what one module imports, specifier by specifier, with an import map that grows
on the way.  Nothing is pushed and nothing is reversed.  `discover_eq_depthFirst` says that the
loop over a stack of frames does just what the recursion does.

**From the recursion to the loop.**  A visit that returns works off its frame and leaves what is
below it alone (`visit_performs`).  The induction is on the recursion; the frames that a module
pushes at once are matched against the calls one by one, by what the map does not know yet.

**From the loop to the recursion.**  A loop that ends has ended every call that its frames stand
for (`ends_of_run`).  So neither runs on where the other comes to an end.
-/

namespace ModuleBundler

open Discovery

namespace DepthFirst

/-- **What the recursion has found**; the modules that are open are not part of it, because they
    are the path that a call is given. -/
structure Findings where
  graph : DependencyGraph
  cycles : List (List ModuleId)
  compiled : List ModuleId

/-- How a call ends: what has been found, and what the call returns or which errors stop it. -/
abbrev Ending (α : Type) := Findings × Except BuildErrors α

/-- Meet a module of the graph again: if it is on the path, note the part of the path from there
    on and back to it, once. -/
def Findings.meet (f : Findings) (path : List ModuleId) (id : ModuleId) : Findings :=
  if id ∈ path then
    let cycle := path.dropWhile (· ≠ id) ++ [id]
    if f.cycles.contains cycle then f else { f with cycles := f.cycles ++ [cycle] }
  else f

/-- The findings with a module finished. -/
def Findings.finish (f : Findings) (id : ModuleId) (m : ImportMap) : Findings :=
  { f with graph := f.graph.finish id m }

/-- Hand a module to the compiler. -/
def Findings.call (f : Findings) (id : ModuleId) : Findings :=
  { f with compiled := f.compiled ++ [id] }

/-- The findings with a module reserved. -/
def Findings.reserve (f : Findings) (id : ModuleId) (code : String) : Findings :=
  { f with graph := f.graph.reserve id code }

/-- Close a module after its imports, which have ended like this. -/
def Findings.close (id : ModuleId) : Ending ImportMap → Ending Unit
  | (f, .error errors) => (f, .error errors)
  | (f, .ok m) => (f.finish id m, .ok ())

variable {σ : Type}

mutual

/-- **Visit a module** that the last module of the path imports. -/
def Findings.visit [FileStore σ] (r : Resolver σ) (compile : Compiler) (path : List ModuleId)
    (importer : Option ModuleId) (id : ModuleId) (f : Findings) : Option (Ending Unit) :=
  if f.graph.contains id then some (f.meet path id, .ok ())
  else match readSource r.store id importer with
    | .error errors => some (f, .error errors)
    | .ok source =>
        match compile id source with
        | .error errors => some (f.call id, .error errors)
        | .ok unit => do
            let e ← (f.call id).reserve id unit.code
              |>.visitImports r compile (path ++ [id]) id unit.imports .empty
            some (Findings.close id e)
partial_fixpoint

/-- **Visit what a module imports**, specifier by specifier; the answer is its import map. -/
def Findings.visitImports [FileStore σ] (r : Resolver σ) (compile : Compiler) (path : List ModuleId)
    (id : ModuleId) (imports : List String) (known : ImportMap) (f : Findings) :
    Option (Ending ImportMap) :=
  match imports with
  | [] => some (f, .ok known)
  | specifier :: rest =>
      if known.contains specifier then f |>.visitImports r compile path id rest known
      else do
        let target := r.resolveId (some id) specifier
        let (after, answer) ← f |>.visit r compile path (some id) target
        match answer with
        | .error errors => some (after, .error errors)
        | .ok () => after |>.visitImports r compile path id rest (known.insert specifier target)
partial_fixpoint

end

/-- **Discover** by recursion. -/
def discover [FileStore σ] (r : Resolver σ) (compile : Compiler) (entry : ModuleId) :
    Option (Ending Unit) :=
  Findings.visit r compile [] none entry ⟨.new entry, [], []⟩

end DepthFirst

namespace Discovery

open DepthFirst (Findings Ending)
open DepthFirst.Findings (visit visitImports)

/-- What has been found, without the modules that are open. -/
def findings (d : Discovery) : Findings := ⟨d.graph, d.cycles, d.compiled⟩

/-- An outcome as the ending of a call. -/
def Outcome.ending (outcome : Outcome) : Ending Unit :=
  (outcome.reached.findings,
    match outcome.errors with
    | none => .ok ()
    | some errors => .error errors)

/-- Findings along a path, as a discovery whose open modules are the path. -/
def along (path : List ModuleId) (f : Findings) : Discovery := ⟨f.graph, path, f.cycles, f.compiled⟩

variable {σ : Type} [FileStore σ] {r : Resolver σ} {compile : Compiler}

/-- To come upon a module again in the loop is to meet it in the recursion. -/
lemma revisit_along (path : List ModuleId) (f : Findings) (id : ModuleId) :
    (along path f).revisit id = along path (f.meet path id) := by
  by_cases hp : id ∈ path
  · have hrevisit : (along path f).revisit id
        = (along path f).noteCycle (path.dropWhile (· ≠ id) ++ [id]) := if_pos hp
    rw [hrevisit]
    by_cases hc : path.dropWhile (· ≠ id) ++ [id] ∈ f.cycles
    · rw [Findings.meet, if_pos hp, if_pos (List.contains_iff_mem.2 hc)]
      exact if_pos hc
    · rw [Findings.meet, if_pos hp, if_neg fun h => hc (List.contains_iff_mem.1 h)]
      exact if_neg hc
  · rw [Findings.meet, if_neg hp]
    exact if_neg hp

lemma close_along (path : List ModuleId) (id : ModuleId) (f : Findings) (m : ImportMap) :
    (along (path ++ [id]) f).close id m = along path (f.finish id m) := by
  simp [along, close, Findings.finish]

/-- The frames for some of the specifiers of a module. -/
def visits (r : Resolver σ) (id : ModuleId) (specifiers : List String) : List Frame :=
  specifiers.map fun s => .visit (r.resolveId (some id) s) (some id)

/-- The frames of a module are the visits of its imports, each once, and then its end. -/
lemma framesOf_importMapOf (id : ModuleId) (imports : List String) :
    framesOf id (importMapOf r id imports)
      = visits r id (unknown .empty imports) ++ [.finish id (extend r id .empty imports)] := by
  have hu : unknown .empty imports = imports.eraseDups := by simp [unknown]
  rw [framesOf, OrderedMap.values_eq_map, toList_importMapOf, hu, visits, List.map_map,
    List.map_map]
  rfl

/-! ## From the recursion to the loop -/

/-- What a call does to the loop: one that returns works off its frames, one that fails ends the
    loop with its errors. -/
def Performs {α : Type} (r : Resolver σ) (compile : Compiler) (path : List ModuleId)
    (f : Findings) (frames rest : List Frame) (e : Ending α) : Prop :=
  match e.2 with
  | .ok _ => run r compile frames (along path f) = run r compile rest (along path e.1)
  | .error errors =>
      ∃ opened, run r compile frames (along path f) = some ⟨along opened e.1, some errors⟩

/-- Frames that a call works off, followed by frames that a second call works off. -/
lemma Performs.trans {α β : Type} {path : List ModuleId} {f after : Findings} {a : α}
    {frames middle rest : List Frame} {e : Ending β}
    (h : Performs r compile path f frames middle (after, .ok a))
    (h' : Performs r compile path after middle rest e) :
    Performs r compile path f frames rest e := by
  have hfirst : run r compile frames (along path f) = run r compile middle (along path after) := h
  unfold Performs at h' ⊢
  rw [hfirst]
  exact h'

lemma performs_meet {path : List ModuleId} {f : Findings} {id : ModuleId}
    (importer : Option ModuleId) (rest : List Frame) (hmem : f.graph.contains id = true) :
    Performs r compile path f (.visit id importer :: rest) rest
      ((f.meet path id, .ok ()) : Ending Unit) := by
  have hturn : turn r compile (.visit id importer :: rest) (along path f)
      = .next rest ((along path f).revisit id) := if_pos hmem
  rw [Performs, run_of_next r compile hturn, revisit_along]

/-- A visit to a new module that cannot be read and compiled. -/
lemma performs_fail {path : List ModuleId} {f after : Findings} {id : ModuleId}
    {importer : Option ModuleId} {errors : BuildErrors} (rest : List Frame)
    (hnew : ¬ f.graph.contains id = true)
    (hexpand : expand r compile (along path f) id importer = (along path after, .error errors)) :
    Performs r compile path f (.visit id importer :: rest) rest
      ((after, .error errors) : Ending Unit) := by
  refine ⟨path, run_of_halt r compile ?_⟩
  refine (if_neg hnew).trans ?_
  rw [hexpand]

/-- A visit to a new module, given what the calls for its imports do: their frames stand above
    the frame that closes the module. -/
lemma performs_close {path : List ModuleId} {f : Findings} {id : ModuleId}
    {unit : CompiledModule} {e : Ending ImportMap} (importer : Option ModuleId)
    (rest : List Frame) (hnew : ¬ f.graph.contains id = true) (hunit : Yields r compile id unit)
    (hmap : ∀ m, e.2 = .ok m → m = extend r id .empty unit.imports)
    (himports : ∀ rest, Performs r compile (path ++ [id]) ((f.call id).reserve id unit.code)
      (visits r id (unknown .empty unit.imports) ++ rest) rest e) :
    Performs r compile path f (.visit id importer :: rest) rest (Findings.close id e) := by
  have henter : run r compile (.visit id importer :: rest) (along path f)
      = run r compile
          (visits r id (unknown .empty unit.imports)
            ++ (.finish id (extend r id .empty unit.imports) :: rest))
          (along (path ++ [id]) ((f.call id).reserve id unit.code)) := by
    refine run_of_next r compile ((if_neg hnew).trans ?_)
    rw [expand_of_yields r compile _ importer hunit, framesOf_importMapOf]
    simp only [List.append_assoc]
    rfl
  have hcalls := himports (.finish id (extend r id .empty unit.imports) :: rest)
  obtain ⟨after, answer⟩ := e
  cases answer with
  | error errors =>
      obtain ⟨opened, hrun⟩ := hcalls
      exact ⟨opened, henter.trans hrun⟩
  | ok m =>
      cases hmap m rfl
      refine (henter.trans hcalls).trans ((run_of_next r compile rfl).trans ?_)
      rw [close_along]
      rfl

/-- **What a call does to the loop**, for both halves of the recursion at once. -/
theorem visit_performs (r : Resolver σ) (compile : Compiler) :
    (∀ path importer id f e, visit r compile path importer id f = some e →
      ∀ rest, Performs r compile path f (.visit id importer :: rest) rest e)
    ∧ (∀ path id imports known f e, visitImports r compile path id imports known f = some e →
      (∀ m, e.2 = .ok m → m = extend r id known imports)
        ∧ ∀ rest, Performs r compile path f
            (visits r id (unknown known imports) ++ rest) rest e) := by
  refine DepthFirst.Findings.visit.mutual_partial_correctness r compile
    (fun path importer id f e =>
      ∀ rest, Performs r compile path f (.visit id importer :: rest) rest e)
    (fun path id imports known f e =>
      (∀ m, e.2 = .ok m → m = extend r id known imports)
        ∧ ∀ rest, Performs r compile path f
            (visits r id (unknown known imports) ++ rest) rest e) ?_ ?_
  · intro recImports ih path importer id f e h rest
    split at h
    · next hmem =>
        cases h
        exact performs_meet importer rest hmem
    · next hnew =>
        cases hread : FileStore.read r.store id with
        | error cause =>
            rw [readSource, hread] at h
            cases h
            exact performs_fail rest hnew (by rw [expand, readSource, hread]; rfl)
        | ok source =>
            rw [readSource, hread] at h
            cases hcompile : compile id source with
            | error errors =>
                simp only [Except.mapError, hcompile] at h
                cases h
                refine performs_fail rest hnew ?_
                rw [expand, readSource, hread]
                simp only [Except.mapError, hcompile]
                rfl
            | ok unit =>
                simp only [Except.mapError, hcompile] at h
                obtain ⟨e, hcall, he⟩ := Option.bind_eq_some_iff.1 h
                cases he
                obtain ⟨hmap, himports⟩ := ih _ _ _ _ _ _ hcall
                exact performs_close importer rest hnew ⟨source, hread, hcompile⟩ hmap himports
  · intro recVisit recImports ihVisit ihImports path id imports known f e h
    -- A known specifier has no frame, an unknown one has the uppermost.
    cases imports with
    | nil =>
        cases h
        refine ⟨fun m hm => ?_, fun rest => rfl⟩
        cases hm
        rfl
    | cons s imports =>
        simp only at h
        split at h
        · next hknown =>
            obtain ⟨hmap, hperform⟩ := ihImports _ _ _ _ _ _ h
            rw [unknown_cons_of_mem imports ((OrderedMap.contains_iff_mem_keys _ _).1 hknown)]
            refine ⟨fun m hm => ?_, hperform⟩
            rw [hmap m hm, extend, extend, List.foldl_cons, if_pos hknown]
        · next hnew =>
            have hs : s ∉ known.keys :=
              fun hs => hnew ((OrderedMap.contains_iff_mem_keys _ _).2 hs)
            rw [unknown_cons_of_notMem imports (r.resolveId (some id) s) hs]
            obtain ⟨⟨after, answer⟩, hcall, h⟩ := Option.bind_eq_some_iff.1 h
            have hvisit := ihVisit _ _ _ _ _ hcall
            cases answer with
            | error errors =>
                cases h
                refine ⟨?_, fun rest => hvisit _⟩
                intro m hm
                cases hm
            | ok _ =>
                obtain ⟨hmap, hperform⟩ := ihImports _ _ _ _ _ _ h
                refine ⟨fun m hm => ?_, fun rest => (hvisit _).trans (hperform rest)⟩
                rw [hmap m hm, extend, extend, List.foldl_cons, if_neg hnew]

/-! ## From the loop to the recursion -/

/-- Every call that the frames stand for comes to an end. -/
def Ends (r : Resolver σ) (compile : Compiler) : List Frame → List ModuleId → Findings → Prop
  | [], _, _ => True
  | .finish id m :: rest, path, f => Ends r compile rest path.dropLast (f.finish id m)
  | .visit id importer :: rest, path, f =>
      ∃ after answer, visit r compile path importer id f = some (after, answer)
        ∧ (answer = .ok () → Ends r compile rest path after)

/-- The calls for the imports of a module, taken together. -/
lemma ends_imports {path : List ModuleId} {id : ModuleId} {rest : List Frame}
    (imports : List String) (known : ImportMap) (f : Findings)
    (h : Ends r compile (visits r id (unknown known imports) ++ rest) path f) :
    ∃ after answer, visitImports r compile path id imports known f = some (after, answer)
      ∧ ∀ m, answer = .ok m → m = extend r id known imports ∧ Ends r compile rest path after := by
  induction imports generalizing known f with
  | nil =>
      refine ⟨f, .ok known, by rw [visitImports], ?_⟩
      intro m hm
      cases hm
      exact ⟨rfl, h⟩
  | cons s imports ih =>
      rw [visitImports]
      by_cases hknown : known.contains s = true
      · rw [if_pos hknown, extend, List.foldl_cons, if_pos hknown]
        rw [unknown_cons_of_mem imports ((OrderedMap.contains_iff_mem_keys _ _).1 hknown)] at h
        exact ih known f h
      · have hs : s ∉ known.keys :=
          fun hs => hknown ((OrderedMap.contains_iff_mem_keys _ _).2 hs)
        rw [if_neg hknown, extend, List.foldl_cons, if_neg hknown]
        rw [unknown_cons_of_notMem imports (r.resolveId (some id) s) hs] at h
        obtain ⟨after, answer, hvisit, hrest⟩ := h
        simp only [hvisit]
        cases answer with
        | error errors =>
            refine ⟨after, .error errors, rfl, ?_⟩
            intro m hm
            cases hm
        | ok _ => exact ih (known.insert s (r.resolveId (some id) s)) after (hrest rfl)

/-- A visit that cannot read and compile its module comes to an end. -/
lemma visit_of_not_yields (path : List ModuleId) {id : ModuleId} (f : Findings)
    (importer : Option ModuleId) (hnew : id ∉ f.graph.ids)
    (hnone : ∀ unit, ¬ Yields r compile id unit) :
    ∃ after errors, visit r compile path importer id f = some (after, .error errors) := by
  rw [visit, if_neg fun hm => hnew ((DependencyGraph.contains_iff_mem_ids _ _).1 hm), readSource]
  cases hread : FileStore.read r.store id with
  | error cause => exact ⟨f, _, rfl⟩
  | ok source =>
      cases hcompile : compile id source with
      | error errors => exact ⟨f.call id, errors, by simp [Except.mapError, hcompile]⟩
      | ok unit => exact absurd ⟨source, hread, hcompile⟩ (hnone unit)

/-- A visit to a new module calls for its imports. -/
lemma visit_of_yields {path : List ModuleId} {id : ModuleId} {f : Findings}
    {unit : CompiledModule} (importer : Option ModuleId) (hnew : id ∉ f.graph.ids)
    (hunit : Yields r compile id unit) :
    visit r compile path importer id f
      = (visitImports r compile (path ++ [id]) id unit.imports .empty
          ((f.call id).reserve id unit.code)).map (Findings.close id) := by
  obtain ⟨source, hread, hcompile⟩ := hunit
  rw [visit, if_neg fun hm => hnew ((DependencyGraph.contains_iff_mem_ids _ _).1 hm), readSource,
    Option.map_eq_bind]
  simp only [hread, Except.mapError, hcompile, Option.bind_eq_bind]
  rfl

/-- **A loop that ends has ended every call that its frames stand for.** -/
theorem ends_of_run {frames : List Frame} {d : Discovery} {outcome : Outcome}
    (h : run r compile frames d = some outcome) : Ends r compile frames d.opened d.findings := by
  refine run.partial_correctness r compile
    (fun frames d _ => Ends r compile frames d.opened d.findings) ?_ frames d outcome h
  intro again ih frames d outcome hrun
  -- The frames that a turn pushes are calls that end, by induction; put together they are the
  -- call whose frame was taken.
  cases hturn : turn r compile frames d with
  | halt o =>
      rcases turn_halt r compile hturn with ⟨rfl, -⟩ | ⟨-, id, importer, rest, rfl, hnew, hnone⟩
      · trivial
      · obtain ⟨after, errors, hvisit⟩ :=
          visit_of_not_yields d.opened d.findings importer hnew hnone
        refine ⟨after, .error errors, hvisit, ?_⟩
        intro ha
        cases ha
  | next frames' d' =>
      rw [hturn] at hrun
      have hends := ih frames' d' outcome hrun
      cases advance_of_turn r compile hturn with
      | closing id m rest d => exact hends
      | meeting id importer _ d hmem =>
          have hrevisit := revisit_along d.opened d.findings id
          refine ⟨d.findings.meet d.opened id, .ok (), ?_, fun _ => ?_⟩
          · rw [visit]
            exact if_pos ((DependencyGraph.contains_iff_mem_ids _ _).2 hmem)
          · change Ends r compile frames' ((along d.opened d.findings).revisit id).opened
              ((along d.opened d.findings).revisit id).findings at hends
            rw [hrevisit] at hends
            exact hends
      | entering id importer rest d unit hnew hunit =>
          rw [framesOf_importMapOf, List.append_assoc] at hends
          obtain ⟨after, answer, hcall, hrest⟩ := ends_imports unit.imports .empty _ hends
          have hvisit : visit r compile d.opened importer id d.findings
              = some (Findings.close id (after, answer)) :=
            (visit_of_yields importer hnew hunit).trans (congrArg _ hcall)
          cases answer with
          | error errors =>
              refine ⟨after, .error errors, hvisit, ?_⟩
              intro ha
              cases ha
          | ok m =>
              obtain ⟨rfl, hclosed⟩ := hrest m rfl
              refine ⟨after.finish id _, .ok (), hvisit, fun _ => ?_⟩
              · have hdrop : (d.opened ++ [id]).dropLast = d.opened := by simp
                rw [← hdrop]
                exact hclosed

/-- **The loop is the recursion**: the same modules in the same order with the same records, the
    same cycles in the same order, the same calls of the compiler, the same errors, and neither
    ends unless the other does. -/
theorem discover_eq_depthFirst (r : Resolver σ) (compile : Compiler) (entry : ModuleId) :
    (discover r compile entry).map Outcome.ending = DepthFirst.discover r compile entry := by
  have hstart : start entry = along [] ⟨.new entry, [], []⟩ := rfl
  cases hvisit : DepthFirst.discover r compile entry with
  -- A loop that ended would have ended the recursion.
  | none =>
      rw [Option.map_eq_none_iff, Option.eq_none_iff_forall_ne_some]
      intro outcome hrun
      obtain ⟨after, answer, hends, -⟩ := ends_of_run hrun
      exact absurd (hvisit.symm.trans hends) (by simp)
  | some e =>
      have hperform := (visit_performs r compile).1 _ _ _ _ _ hvisit []
      obtain ⟨after, answer⟩ := e
      rw [discover, hstart]
      cases answer with
      | error errors =>
          obtain ⟨opened, hrun⟩ := hperform
          rw [hrun]
          rfl
      | ok _ =>
          have hrun : run r compile [.visit entry none] (along [] ⟨.new entry, [], []⟩)
              = run r compile [] (along [] after) := hperform
          rw [hrun, run_of_halt r compile rfl]
          rfl

end Discovery

end ModuleBundler
