import ModuleBundler.Proofs.Bundle.Manifest
import ModuleBundler.Proofs.FileStore.Writing
import ModuleBundler.Proofs.Graph.Calls
import ModuleBundler.Proofs.Graph.Probes

/-!
# What a build that is written leaves behind

**What a build can do to the store.**  One that fails may have created directories.  One that
succeeds has created directories and given one key, that of `Settings.outputFile`, the text of the
bundle (`Build.write_cases`).

**Building again.**  If the scan has not asked about the key that is written, it gets the same
answers afterwards.  So the bundle is built again as it was, and writing it again changes nothing
(`write_undisturbed`).

**The modules.**  What a build has loaded as a module it leaves alone, unless the module stands
where the bundle is to go: nothing compares the two, and the bundle replaces the module
(`write_keeps_modules`, `write_replaces_module`).
-/

namespace ModuleBundler.Build

open FlatStore (Grown key)

variable {settings : Settings} {store next : FlatStore} {compile : Compiler}

/-- The bundle of a graph is written to `Settings.outputFile`. -/
lemma write_of_scan {found : Scan} (hscan : Scan.scan settings store compile = .ok found)
    (hwrite : (Bundle.asset settings found.graph).write store settings.outputDirectory
      = (next, .ok settings.outputFile)) :
    write settings store compile
      = (next, .ok ⟨[Bundle.asset settings found.graph], found.warnings⟩) := by
  have hgenerate : generate settings store compile
      = .ok ⟨[Bundle.asset settings found.graph], found.warnings⟩ := by
    rw [generate, hscan]
    rfl
  simp only [write, hgenerate, writeAll, hwrite]

/-- **What building and writing can do to a store.** -/
lemma write_cases (settings : Settings) (store : FlatStore) (compile : Compiler) :
    (∃ (ready : FlatStore) (errors : BuildErrors),
        write settings store compile = (ready, .error errors) ∧ Grown store ready)
      ∨ ∃ (found : Scan) (ready : FlatStore), Scan.scan settings store compile = .ok found
          ∧ Grown store ready
          ∧ (Bundle.asset settings found.graph).write store settings.outputDirectory
              = (ready.withFile settings.outputFile
                  (Bundle.asset settings found.graph).content.toUTF8, .ok settings.outputFile) := by
  cases hscan : Scan.scan settings store compile with
  | error errors =>
      refine .inl ⟨store, errors, ?_, .refl store⟩
      have hgenerate : generate settings store compile = .error errors := by
        rw [generate, hscan]
        rfl
      simp only [write, hgenerate]
  | ok found =>
      rcases (Bundle.asset settings found.graph).write_cases store settings.outputDirectory with
        ⟨ready, errors, hfailed, hgrown⟩ | ⟨ready, -, hgrown, -, hdone⟩
      · refine .inl ⟨ready, errors, ?_, hgrown⟩
        have hgenerate : generate settings store compile
            = .ok ⟨[Bundle.asset settings found.graph], found.warnings⟩ := by
          rw [generate, hscan]
          rfl
        simp only [write, hgenerate, writeAll, hfailed]
      · exact .inr ⟨found, ready, rfl, hgrown, hdone⟩

/-- The bundle is read back from where it was written. -/
lemma read_withFile (store : FlatStore) {p q : Path} (h : key q = key p) (content : String) :
    FlatStore.read (store.withFile p content.toUTF8) q = .ok content := by
  rw [FlatStore.read_eq_ok_iff, FlatStore.get?_withFile, if_pos h.symm]

/-- **A scan does not see what is written elsewhere.** -/
lemma scan_withFile {found : Scan} {ready : FlatStore}
    (hscan : Scan.scan settings store compile = .ok found) (hgrown : Grown store ready)
    (hapart : ∀ p ∈ Scan.asked settings store found, key p ≠ key settings.outputFile)
    (content : ByteArray) :
    Scan.scan settings (ready.withFile settings.outputFile content) compile = .ok found := by
  -- A probe tells files from everything else, so the directories that were created do not show.
  refine Scan.scan_of_agreeing hscan (fun p hp => ?_) fun id hid => ?_
  · have hne := hapart p (List.mem_append_left _ hp)
    exact FlatStore.isFile_congr fun bytes => hgrown.file_withFile_iff hne.symm
  · have hne := hapart id (List.mem_append_right _ hid)
    obtain ⟨reached, hrun, -, rfl⟩ := Scan.scan_eq_ok_iff.1 hscan
    obtain ⟨record, hrecord⟩ := DependencyGraph.exists_get?_of_mem_ids hid
    obtain ⟨unit, ⟨source, hread, -⟩, -⟩ := (Scan.explored_of_scan hrun).records id record hrecord
    refine Eq.trans ?_ hread.symm
    exact FlatStore.read_eq_ok_iff.2
      ((hgrown.file_withFile_iff hne.symm).2 (FlatStore.read_eq_ok_iff.1 hread))

/-- **Writing a bundle does not disturb building it.**  Let a build be written, to a file whose key
    is not one that the scan has asked about.  Then what it brings forth is what a build in memory
    brought forth before, and a build in memory brings forth the same afterwards.  The output file
    reads as the only asset, and to build and write again gives the same and changes nothing. -/
theorem write_undisturbed (settings : Settings) (store next : FlatStore) (compile : Compiler)
    (build : Build) (hwrite : write settings store compile = (next, .ok build))
    (hapart : ∀ found, Scan.scan settings store compile = .ok found →
      ∀ p ∈ Scan.asked settings store found, key p ≠ key settings.outputFile) :
    generate settings store compile = .ok build
      ∧ (∃ a, build.assets = [a] ∧ FlatStore.read next settings.outputFile = .ok a.content)
      ∧ generate settings next compile = .ok build
      ∧ write settings next compile = (next, .ok build) := by
  rcases write_cases settings store compile with
    ⟨ready, errors, hfailed, -⟩ | ⟨found, ready, hscan, hgrown, hdone⟩
  · rw [hfailed] at hwrite
    cases hwrite
  · rw [write_of_scan hscan hdone] at hwrite
    cases hwrite
    have hagain := scan_withFile hscan hgrown (hapart found hscan)
      (Bundle.asset settings found.graph).content.toUTF8
    refine ⟨?_, ⟨_, rfl, read_withFile ready rfl _⟩, ?_, ?_⟩
    · rw [generate, hscan]
      rfl
    · rw [generate, hagain]
      rfl
    · exact write_of_scan hagain (Asset.write_again hdone)

/-- Where the directory is there, the bundle can be written into it. -/
lemma write_of_ready {found : Scan} {ready : FlatStore}
    (hscan : Scan.scan settings store compile = .ok found)
    (hensure : Asset.ensureDirectory store settings.outputDirectory = (ready, none))
    (hparent : ready.hasParent (key settings.outputFile) = true) :
    write settings store compile
      = (ready.withFile settings.outputFile (Bundle.asset settings found.graph).content.toUTF8,
          .ok ⟨[Bundle.asset settings found.graph], found.warnings⟩) :=
  write_of_scan hscan (Asset.write_of_written hensure
    (FlatStore.write_eq_ok_iff.2 ⟨hparent, rfl⟩))

lemma ensureDirectory_pair :
    Asset.ensureDirectory Scan.pairStore Scan.pairSettings.outputDirectory
      = (⟨Scan.pairStore.entries.insert (key ⟨"/p/dist"⟩) .directory⟩, none) := by
  have hstations : Asset.stations ⟨""⟩ Scan.pairSettings.outputDirectory.components
      = [⟨"/p"⟩, ⟨"/p/dist"⟩] := by decide +kernel
  have hcreate : FileStore.createDirectory Scan.pairStore ⟨"/p/dist"⟩
      = .ok ⟨Scan.pairStore.entries.insert (key ⟨"/p/dist"⟩) .directory⟩ :=
    FlatStore.createDirectory_eq_ok_iff.2 ⟨by decide +kernel,
      (OrderedMap.contains_eq_false_iff _ _).1 (by decide +kernel), rfl⟩
  rw [Asset.ensureDirectory, hstations, Asset.createMissing, if_pos (by decide +kernel),
    Asset.createMissing_of_created _ (by decide +kernel) hcreate, Asset.createMissing]

/-- For two modules that import each other, each is tried under its specifier first. -/
lemma mem_asked_pair {found : Scan} {p : Path}
    (hscan : Scan.scan Scan.pairSettings Scan.pairStore Scan.compileSpecifier = .ok found)
    (hp : p ∈ Scan.asked Scan.pairSettings Scan.pairStore found) :
    p ∈ [(⟨"/p/a"⟩ : Path), ⟨"/p/a.js"⟩] ∨ p ∈ [(⟨"/p/b"⟩ : Path), ⟨"/p/b.js"⟩] := by
  have hentry : (Scan.resolver Scan.pairSettings Scan.pairStore).candidates none
      Scan.pairSettings.entry = [⟨"/p/a"⟩, ⟨"/p/a.js"⟩] := by decide +kernel
  have ha : (Scan.resolver Scan.pairSettings Scan.pairStore).candidates
      (some ⟨"/p/b.js"⟩) "./a" = [⟨"/p/a"⟩, ⟨"/p/a.js"⟩] := by decide +kernel
  have hb : (Scan.resolver Scan.pairSettings Scan.pairStore).candidates
      (some ⟨"/p/a.js"⟩) "./b" = [⟨"/p/b"⟩, ⟨"/p/b.js"⟩] := by decide +kernel
  rcases (Scan.mem_asked_iff hscan).1 hp with
    hp | hp | ⟨id, unit, hid, hunit, specifier, hspecifier, hp⟩
  · exact .inl (hentry ▸ hp)
  · rcases (Scan.reachable_pair_iff p).1 hp with rfl | rfl
    · exact .inl (by simp)
    · exact .inr (by simp)
  · rcases (Scan.reachable_pair_iff id).1 hid with rfl | rfl
    · cases hunit.unique Scan.yields_pair_a
      cases List.mem_singleton.1 hspecifier
      exact .inr (hb ▸ hp)
    · cases hunit.unique Scan.yields_pair_b
      cases List.mem_singleton.1 hspecifier
      exact .inl (ha ▸ hp)

/-- The bundle of two modules that import each other is not in their way. -/
theorem write_undisturbed_pair :
    ∃ (next : FlatStore) (build : Build) (found : Scan),
      write Scan.pairSettings Scan.pairStore Scan.compileSpecifier = (next, .ok build)
        ∧ Scan.scan Scan.pairSettings Scan.pairStore Scan.compileSpecifier = .ok found
        ∧ (∀ p ∈ Scan.asked Scan.pairSettings Scan.pairStore found,
            key p ≠ key Scan.pairSettings.outputFile)
        ∧ generate Scan.pairSettings next Scan.compileSpecifier = .ok build
        ∧ write Scan.pairSettings next Scan.compileSpecifier = (next, .ok build) := by
  obtain ⟨found, hscan⟩ := (Scan.exists_scan_iff Scan.pairSettings Scan.pairStore
    Scan.compileSpecifier (by decide +kernel)).2 fun id hid => by
      rcases (Scan.reachable_pair_iff id).1 hid with rfl | rfl
      · exact ⟨_, Scan.yields_pair_a⟩
      · exact ⟨_, Scan.yields_pair_b⟩
  have hwrite := write_of_ready hscan ensureDirectory_pair (by decide +kernel)
  have haway : ∀ p ∈ [(⟨"/p/a"⟩ : Path), ⟨"/p/a.js"⟩] ++ [⟨"/p/b"⟩, ⟨"/p/b.js"⟩],
      key p ≠ key Scan.pairSettings.outputFile := by decide +kernel
  have hapart : ∀ p ∈ Scan.asked Scan.pairSettings Scan.pairStore found,
      key p ≠ key Scan.pairSettings.outputFile := fun p hp =>
    haway p (List.mem_append.2 (mem_asked_pair hscan hp))
  obtain ⟨-, -, hgenerate, hagain⟩ := write_undisturbed Scan.pairSettings Scan.pairStore _
    Scan.compileSpecifier _ hwrite fun found' hfound' => by
      rw [hscan] at hfound'
      cases hfound'
      exact hapart
  exact ⟨_, _, found, hwrite, hscan, hapart, hgenerate, hagain⟩

/-- **A build leaves its modules alone, except for one that stands where the bundle goes.**
    Whatever a build loads as a module is a file that can be read.  It reads the same afterwards,
    unless the build has succeeded and the module has the key of the output file.  A build that
    succeeds replaces what has this key by the text of the bundle, module or not. -/
theorem write_keeps_modules (settings : Settings) (store : FlatStore) (compile : Compiler) :
    let outcome := write settings store compile
    (∀ m ∈ (Scan.discovery settings store compile).reached.compiled,
        ∃ source, FlatStore.read store m = .ok source
          ∧ (FlatStore.read outcome.1 m = .ok source
            ∨ (∃ build, outcome.2 = .ok build) ∧ key m = key settings.outputFile))
      ∧ ∀ build, outcome.2 = .ok build → ∃ a, build.assets = [a]
          ∧ ∀ p, key p = key settings.outputFile →
              FlatStore.read outcome.1 p = .ok a.content := by
  have hreads : ∀ m ∈ (Scan.discovery settings store compile).reached.compiled,
      ∃ source, FlatStore.read store m = .ok source := Scan.exists_read_of_compiled
  rcases write_cases settings store compile with
    ⟨ready, errors, hfailed, hgrown⟩ | ⟨found, ready, hscan, hgrown, hdone⟩
  · rw [hfailed]
    refine ⟨fun m hm => ?_, fun build h => by cases h⟩
    obtain ⟨source, hread⟩ := hreads m hm
    exact ⟨source, hread, .inl (FlatStore.read_eq_ok_iff.2
      (hgrown.file_iff.2 (FlatStore.read_eq_ok_iff.1 hread)))⟩
  · rw [write_of_scan hscan hdone]
    refine ⟨fun m hm => ?_, fun build h => ?_⟩
    · obtain ⟨source, hread⟩ := hreads m hm
      refine ⟨source, hread, ?_⟩
      by_cases hkey : key m = key settings.outputFile
      · exact .inr ⟨⟨_, rfl⟩, hkey⟩
      · exact .inl (FlatStore.read_eq_ok_iff.2 ((hgrown.file_withFile_iff (Ne.symm hkey)).2
          (FlatStore.read_eq_ok_iff.1 hread)))
    · cases h
      exact ⟨_, rfl, fun p hp => read_withFile ready hp _⟩

/-- A bundle ends with a line break. -/
lemma lineBreak_mem_asset (settings : Settings) (g : DependencyGraph) :
    '\n' ∈ (Bundle.asset settings g).content.toList := by
  rw [Bundle.asset, Bundle.render]
  simp [Text.joinLines]

/-- A project whose bundle is to go where its only module is. -/
def soleStore : FlatStore :=
  ⟨.ofList [("", .directory), ("/p", .directory), ("/p/a.js", .file "1".toUTF8)]⟩

/-- Settings that put the bundle where the entry is. -/
def soleSettings : Settings := ⟨"./a.js", ⟨"/p"⟩, "", "a.js"⟩

/-- **A bundle can replace a module** that it was made from. -/
theorem write_replaces_module :
    ∃ m ∈ (Scan.discovery soleSettings soleStore LineScript.compile).reached.compiled,
      FlatStore.read soleStore m = .ok "1"
        ∧ FlatStore.read (write soleSettings soleStore LineScript.compile).1 m ≠ .ok "1" := by
  have hread : FlatStore.read soleStore ⟨"/p/a.js"⟩ = .ok "1" := by
    have hkey : key ⟨"/p/a.js"⟩ = "/p/a.js" := by decide +kernel
    rw [FlatStore.read_eq_ok_iff, hkey]
    simp [soleStore, OrderedMap.ofList, OrderedMap.get?_insert]
  obtain ⟨found, hscan, hrecord⟩ : ∃ found, Scan.scan soleSettings soleStore LineScript.compile
      = .ok found ∧ found.graph.get? ⟨"/p/a.js"⟩ = some ⟨"1", .empty⟩ :=
    Scan.exists_scan_sole (by decide +kernel) (by decide +kernel) hread (by decide +kernel)
  obtain ⟨reached, hrun, hdiscovery, rfl⟩ := Scan.scan_eq_ok_iff.1 hscan
  have hensure : Asset.ensureDirectory soleStore soleSettings.outputDirectory
      = (soleStore, none) := by
    have hstations : Asset.stations ⟨""⟩ soleSettings.outputDirectory.components = [⟨"/p"⟩] := by
      decide +kernel
    rw [Asset.ensureDirectory, hstations]
    exact Asset.createMissing_of_present (List.forall_mem_singleton.2 (by decide +kernel))
  refine ⟨⟨"/p/a.js"⟩, ?_, hread, ?_⟩
  · rw [hdiscovery, (Scan.explored_of_scan hrun).compiled]
    exact DependencyGraph.mem_ids_of_get? hrecord
  · rw [write_of_ready hscan hensure (by decide +kernel), read_withFile _ (by decide +kernel)]
    intro heq
    have hbreak := lineBreak_mem_asset soleSettings reached.graph
    rw [Except.ok.inj heq] at hbreak
    revert hbreak
    decide

end ModuleBundler.Build
