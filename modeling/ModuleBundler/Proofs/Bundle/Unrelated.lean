import ModuleBundler.Proofs.Bundle.Writing

/-!
# Files that a build does not ask about

Two stores that give the same answers to what a scan tries and reads give the same build
(`generate_unaffected`).  What they hold besides does not matter, nor what kinds of stores they are.
For stores that agree in this way the questions are the same as well
(`Scan.candidates_of_agreeing`), so the relation can be read from either side.
-/

namespace ModuleBundler

variable {σ τ : Type} [FileStore σ] [FileStore τ] {settings : Settings} {store : σ} {store' : τ}
  {compile : Compiler} {found : Scan}

/-- Which paths are tried depends on the store only through the tried paths themselves. -/
lemma Resolver.tried_congr {r : Resolver σ} {p : Path}
    (h : ∀ q ∈ r.tried p, FileStore.isFile store' q = FileStore.isFile r.store q) :
    Resolver.tried ⟨r.cwd, store'⟩ p = r.tried p := by
  have hp : p ∈ r.tried p := by
    rw [Resolver.tried]
    split <;> simp
  rw [Resolver.tried, Resolver.tried, h p hp]

namespace Scan

/-- Where the answers are the same, the questions are the same. -/
lemma candidates_of_agreeing
    (hfiles : ∀ p ∈ candidates settings store found,
      FileStore.isFile store' p = FileStore.isFile store p) :
    candidates settings store' found = candidates settings store found := by
  rw [candidates, candidates]
  refine congrArg₂ _ (Resolver.tried_congr fun q hq => hfiles q (List.mem_append_left _ hq)) ?_
  refine List.flatMap_congr fun e he => List.flatMap_congr fun specifier hs => ?_
  refine Resolver.tried_congr fun q hq => hfiles q (List.mem_append_right _ ?_)
  exact List.mem_flatMap.2 ⟨e, he, List.mem_flatMap.2 ⟨specifier, hs, hq⟩⟩

end Scan

namespace Build

/-- **Unrelated files do not change a build.**  Let a scan of one store go well, let another store
    tell files from the rest as the first does for whatever the scan tries, and let it hold the same
    text for each module of the graph.  Then the scan of the other store goes well too, with the
    same graph and warnings, having tried the same paths, and the same build comes out. -/
theorem generate_unaffected (settings : Settings) (store : σ) (store' : τ) (compile : Compiler)
    (found : Scan) (hscan : Scan.scan settings store compile = .ok found)
    (hfiles : ∀ p, Scan.Tries settings store compile p →
      FileStore.isFile store' p = FileStore.isFile store p)
    (hreads : ∀ id ∈ found.graph.ids, FileStore.read store' id = FileStore.read store id) :
    Scan.scan settings store' compile = .ok found
      ∧ (∀ p, Scan.Tries settings store' compile p ↔ Scan.Tries settings store compile p)
      ∧ ∃ build, generate settings store compile = .ok build
          ∧ generate settings store' compile = .ok build ∧ build.warnings = found.warnings := by
  have hcandidates : ∀ p ∈ Scan.candidates settings store found,
      FileStore.isFile store' p = FileStore.isFile store p := fun p hp =>
    hfiles p ((Scan.tries_iff hscan).2 hp)
  have hscan' : Scan.scan settings store' compile = .ok found :=
    Scan.scan_of_agreeing hscan hcandidates hreads
  refine ⟨hscan', fun p => ?_, ⟨[Bundle.asset settings found.graph], found.warnings⟩, ?_, ?_, rfl⟩
  · rw [Scan.tries_iff hscan', Scan.tries_iff hscan, Scan.candidates_of_agreeing hcandidates]
  · rw [generate, hscan]
    rfl
  · rw [generate, hscan']
    rfl

/-- A further file in the directory of two modules does not change their build. -/
theorem generate_unaffected_pair :
    let store' := Scan.pairStore.withFile ⟨"/p/c.js"⟩ "./a".toUTF8
    ∃ found build, Scan.scan Scan.pairSettings Scan.pairStore Scan.compileSpecifier = .ok found
      ∧ (∀ p, Scan.Tries Scan.pairSettings Scan.pairStore Scan.compileSpecifier p →
          FileStore.isFile store' p = FileStore.isFile Scan.pairStore p)
      ∧ (∀ id ∈ found.graph.ids, FileStore.read store' id = FileStore.read Scan.pairStore id)
      ∧ generate Scan.pairSettings Scan.pairStore Scan.compileSpecifier = .ok build
      ∧ generate Scan.pairSettings store' Scan.compileSpecifier = .ok build := by
  intro store'
  obtain ⟨found, hscan⟩ := Scan.exists_scan_pair
  have haway : ∀ p ∈ [(⟨"/p/a"⟩ : Path), ⟨"/p/a.js"⟩] ++ [⟨"/p/b"⟩, ⟨"/p/b.js"⟩],
      FlatStore.key ⟨"/p/c.js"⟩ ≠ FlatStore.key p := by decide +kernel
  have hapart : ∀ p ∈ Scan.asked Scan.pairSettings Scan.pairStore found,
      store'.entries.get? (FlatStore.key p) = Scan.pairStore.entries.get? (FlatStore.key p) := by
    intro p hp
    rw [FlatStore.get?_withFile, if_neg (haway p (List.mem_append.2 (mem_asked_pair hscan hp)))]
  have hfiles : ∀ p, Scan.Tries Scan.pairSettings Scan.pairStore Scan.compileSpecifier p →
      FileStore.isFile store' p = FileStore.isFile Scan.pairStore p := fun p hp =>
    FlatStore.isFile_congr fun bytes => by
      rw [hapart p (List.mem_append_left _ ((Scan.tries_iff hscan).1 hp))]
  have hreads : ∀ id ∈ found.graph.ids,
      FileStore.read store' id = FileStore.read Scan.pairStore id := fun id hid =>
    FlatStore.read_congr (hapart id (List.mem_append_right _ hid))
  obtain ⟨-, -, build, hbefore, hafter, -⟩ := generate_unaffected Scan.pairSettings Scan.pairStore
    store' Scan.compileSpecifier found hscan hfiles hreads
  exact ⟨found, build, hscan, hfiles, hreads, hbefore, hafter⟩

end Build

end ModuleBundler
