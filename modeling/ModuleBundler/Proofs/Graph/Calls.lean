import ModuleBundler.Proofs.Graph.Closure

/-!
# How often the compiler is called

A turn hands a module to the compiler when it enters it, and the last turn of a discovery may hand
one over that is refused (`compiled_of_halt`).  Whatever is handed over can be reached and has been
read (`compiled_of_discover`), and nothing is handed over twice (`nodup_compiled`).

Over a flat store every discovery ends, so the calls can be counted.  The modules that are handed
over are files of the store.  No two of them are one file under two names, since what can be reached
is in normal form, and so the files bound the calls (`discover_ends`).
-/

namespace ModuleBundler

variable {σ : Type} [FileStore σ]

/-! ## What is handed to the compiler -/

namespace Discovery

variable {r : Resolver σ} {compile : Compiler}

/-- The compiler has refused a module, and with this the discovery has ended. -/
def Refused (r : Resolver σ) (compile : Compiler) (outcome : Outcome) (id : ModuleId) : Prop :=
  ∃ source errors, FileStore.read r.store id = .ok source ∧ compile id source = .error errors
    ∧ outcome.errors = some errors

/-- **What the last turn hands to the compiler**: nothing, or a new module that is refused. -/
lemma compiled_of_halt {frames : List Frame} {d : Discovery} {outcome : Outcome}
    (h : turn r compile frames d = .halt outcome) :
    outcome.reached.graph = d.graph ∧ (outcome.reached.compiled = d.compiled
      ∨ ∃ id importer rest, frames = .visit id importer :: rest ∧ id ∉ d.graph.ids
          ∧ outcome.reached.compiled = d.compiled ++ [id] ∧ Refused r compile outcome id) := by
  match frames with
  | [] =>
      cases h
      exact ⟨rfl, .inl rfl⟩
  | .finish id importMap :: rest => cases h
  | .visit id importer :: rest =>
      rw [turn] at h
      split at h
      · cases h
      · next hnew =>
          rw [DependencyGraph.contains_iff_mem_ids] at hnew
          rw [expand, readSource] at h
          cases hread : FileStore.read r.store id with
          | error cause =>
              simp only [hread, Except.mapError, Turn.halt.injEq] at h
              subst h
              exact ⟨rfl, .inl rfl⟩
          | ok source =>
              simp only [hread, Except.mapError] at h
              cases hcompile : compile id source with
              | ok unit => simp [hcompile] at h
              | error errors =>
                  simp only [hcompile, Turn.halt.injEq] at h
                  subst h
                  exact ⟨rfl, .inr ⟨id, importer, rest, rfl, hnew, rfl, source, errors, hread,
                    hcompile, rfl⟩⟩

/-- **What is handed to the compiler**: the modules of the graph, which can be reached and have been
    read, and perhaps a new one like them that is refused. -/
lemma compiled_of_discover {entry : ModuleId} {outcome : Outcome}
    (h : discover r compile entry = some outcome) :
    (∀ id ∈ outcome.reached.compiled, Reachable r compile entry id
        ∧ ∃ source, FileStore.read r.store id = .ok source)
      ∧ (outcome.reached.compiled = outcome.reached.graph.ids
        ∨ ∃ id, id ∉ outcome.reached.graph.ids
            ∧ outcome.reached.compiled = outcome.reached.graph.ids ++ [id]
            ∧ Refused r compile outcome id) := by
  obtain ⟨frames, d, hd, hturn⟩ := exists_last_turn (P := Exploring r compile entry)
    (fun _ _ _ _ hd hturn => hd.advance (advance_of_turn r compile hturn)) h (exploring_start entry)
  obtain ⟨hsame, hcompiled⟩ := compiled_of_halt hturn
  rw [hsame]
  rcases hcompiled with hcompiled | ⟨id, importer, rest, rfl, hnew, hcompiled, hrefused⟩
  · rw [hcompiled, hd.compiled]
    exact ⟨hd.of_mem_ids, .inl rfl⟩
  · rw [hcompiled, hd.compiled]
    have hlast : Reachable r compile entry id := hd.visits id importer (List.mem_cons_self ..)
    obtain ⟨source, errors, hread, hrefused⟩ := hrefused
    exact ⟨List.forall_mem_append.2
        ⟨hd.of_mem_ids, List.forall_mem_singleton.2 ⟨hlast, source, hread⟩⟩,
      .inr ⟨id, hnew, rfl, source, errors, hread, hrefused⟩⟩

/-- No module is handed to the compiler twice. -/
lemma nodup_compiled {entry : ModuleId} {outcome : Outcome}
    (h : discover r compile entry = some outcome) : outcome.reached.compiled.Nodup := by
  rcases (compiled_of_discover h).2 with hcompiled | ⟨id, hnew, hcompiled, -⟩
  · rw [hcompiled]
    exact outcome.reached.graph.ids_nodup
  · rw [hcompiled, ← List.concat_eq_append]
    exact outcome.reached.graph.ids_nodup.concat hnew

/-! ## Counting the calls -/

/-- **A discovery ends, and its calls of the compiler are counted by the files.**  Over a flat
    store, and whatever the compiler lists as imports, the discovery from a resolved specifier comes
    to an outcome, good or bad.  The compiler has been called once for each module of the graph, and
    once more if it has refused a module and so ended the discovery.  Every module that it was
    called for is a file of the store, and no two of them are the same entry of the store.  So the
    calls are at most as many as the files. -/
theorem discover_ends (cwd : Path) (store : FlatStore) (compile : Compiler) (specifier : String)
    (habs : cwd.isAbsolute = true) :
    ∃ outcome, discover ⟨cwd, store⟩ compile (Resolver.resolveId ⟨cwd, store⟩ none specifier)
        = some outcome
      ∧ (outcome.reached.compiled = outcome.reached.graph.ids
        ∨ ∃ id, id ∉ outcome.reached.graph.ids
            ∧ outcome.reached.compiled = outcome.reached.graph.ids ++ [id]
            ∧ Refused ⟨cwd, store⟩ compile outcome id)
      ∧ (∀ id ∈ outcome.reached.compiled, FlatStore.isFile store id = true)
      ∧ (outcome.reached.compiled.map FlatStore.key).Nodup
      ∧ outcome.reached.compiled.length ≤ store.fileCount := by
  let r : Resolver FlatStore := ⟨cwd, store⟩
  have hentry : Path.IsCanonical (r.resolveId none specifier) :=
    r.isCanonical_resolveId habs none specifier
  obtain ⟨outcome, hrun⟩ := exists_discover (r := r) compile habs hentry
  have hnodup := nodup_compiled hrun
  obtain ⟨hcompiled, hcases⟩ := compiled_of_discover hrun
  have hcanonical : ∀ id ∈ outcome.reached.compiled, Path.IsCanonical id := fun id hid =>
    isCanonical_of_reachable r compile habs hentry (hcompiled id hid).1
  refine ⟨outcome, hrun, hcases, fun id hid => ?_, ?_,
    length_le_fileCount hnodup hcanonical fun id hid => (hcompiled id hid).2⟩
  · obtain ⟨-, source, hread⟩ := hcompiled id hid
    exact FlatStore.isFile_iff.2 ⟨_, FlatStore.read_eq_ok_iff.1 hread⟩
  · exact hnodup.map_on fun a ha b hb hkey =>
      FlatStore.key_injective (hcanonical a ha) (hcanonical b hb) hkey

/-- Two modules that import each other without end are two calls at most. -/
theorem discover_ends_pair :
    Scan.pairSettings.cwd.isAbsolute = true
      ∧ ∃ outcome, discover ⟨Scan.pairSettings.cwd, Scan.pairStore⟩ Scan.compileSpecifier
            (Resolver.resolveId ⟨Scan.pairSettings.cwd, Scan.pairStore⟩ none "a") = some outcome
        ∧ outcome.reached.compiled.length ≤ 2 := by
  have habs : Scan.pairSettings.cwd.isAbsolute = true := by decide +kernel
  have hfiles : Scan.pairStore.fileCount = 2 := by decide +kernel
  obtain ⟨outcome, hrun, -, -, -, hcalls⟩ :=
    discover_ends Scan.pairSettings.cwd Scan.pairStore Scan.compileSpecifier "a" habs
  exact ⟨habs, outcome, hrun, hfiles ▸ hcalls⟩

end Discovery

namespace Scan

lemma exists_read_of_compiled {settings : Settings} {store : σ} {compile : Compiler} :
    ∀ m ∈ (discovery settings store compile).reached.compiled,
      ∃ source, FileStore.read store m = .ok source := by
  cases h : Discovery.discover (resolver settings store) compile (entry settings store) with
  | none => simp [discovery, h, Discovery.start]
  | some outcome =>
      rw [discovery, h]
      exact fun m hm => ((Discovery.compiled_of_discover h).1 m hm).2

end Scan

end ModuleBundler
