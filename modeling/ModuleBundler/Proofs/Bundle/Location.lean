import ModuleBundler.Proofs.Bundle.Manifest
import ModuleBundler.Proofs.FileStore.Seeding
import ModuleBundler.Proofs.Graph.Relocation
import ModuleBundler.Proofs.Path.Inside

/-!
# Where a project lies does not matter

A project is a set of files under relative names.  It lies at a site, a directory other than the
root, if the files of a store are exactly those of the project, read from the site.

**Moving.**  Within a project all paths are the site followed by names.  Joining a specifier that
stays inside, trying the script ending and reading a file treat these names in the same way at
every site (`resolve_join`, `yields_iff`).  So moving the site is a relocation of everything that
can be reached (`relocation`).

**The artifact.**  Stable ids are the names without the site, so the moved graph has the manifest of
the graph, and its cycles give the same warnings.  A build at one site therefore brings forth what
a build at any other site does (`generate_eq_ok_iff`).

The root is no site: with the script ending it becomes a path that lies below it, which no other
directory does.
-/

namespace ModuleBundler

open ModuleBundler.Path (Component Confined IsName follow rooted)

/-- **A directory other than the root**, by the names that lead to it. -/
structure Site where
  names : List String
  nonempty : names ≠ []
  isName : ∀ n ∈ names, IsName n

namespace Site

/-- A place at the site, by the names that lead to it from there. -/
def place (site : Site) (inner : List String) : Path := rooted (site.names ++ inner)

/-- The path of the directory. -/
def path (site : Site) : Path := rooted site.names

/-- The same place at another site. -/
def move (site site' : Site) (p : Path) : Path :=
  site'.place ((p.place.drop site.names.length).map Component.text)

variable {site site' : Site} {inner inner' : List String}

@[simp] lemma place_nil (site : Site) : site.place [] = site.path := by
  rw [place, List.append_nil, path]

lemma isName_append (h : ∀ n ∈ inner, IsName n) : ∀ n ∈ site.names ++ inner, IsName n := by
  intro n hn
  rcases List.mem_append.1 hn with hn | hn
  · exact site.isName n hn
  · exact h n hn

/-- A place is known by its names. -/
lemma inner_eq (h : ∀ n ∈ inner, IsName n) :
    ((site.place inner).place.drop site.names.length).map Component.text = inner := by
  rw [place, Path.place_rooted (isName_append h), List.map_append,
    List.drop_left' (List.length_map _), List.map_map]
  exact List.map_id inner

@[simp]
lemma move_place (h : ∀ n ∈ inner, IsName n) :
    site.move site' (site.place inner) = site'.place inner := by
  rw [move, inner_eq h]

lemma place_injective (h : ∀ n ∈ inner, IsName n) (h' : ∀ n ∈ inner', IsName n)
    (heq : site.place inner = site.place inner') : inner = inner' := by
  have hinner : ((site.place inner).place.drop site.names.length).map Component.text = inner :=
    inner_eq h
  rw [← hinner, heq, inner_eq h']

end Site

/-- **A project**: its files, each under the names that lead to it. -/
structure Project where
  files : OrderedMap (List String) String
  nonempty : ∀ inner ∈ files.keys, inner ≠ []
  isName : ∀ inner ∈ files.keys, ∀ n ∈ inner, IsName n

/-- Whether the compiler makes the same of a source wherever it was found. -/
def Compiler.IgnoresId (compile : Compiler) : Prop :=
  ∀ id id' source unit, compile id source = .ok unit → compile id' source = .ok unit

namespace Project

/-- **A project lies at a site** if the store holds exactly its files there. -/
structure LiesAt {σ : Type} [FileStore σ] (project : Project) (site : Site) (store : σ) :
    Prop where
  isFile_iff : ∀ names, (∀ n ∈ names, IsName n) →
    (FileStore.isFile store (rooted names) = true
      ↔ ∃ inner ∈ project.files.keys, names = site.names ++ inner)
  read_iff : ∀ names content, (∀ n ∈ names, IsName n) →
    (FileStore.read store (rooted names) = .ok content
      ↔ ∃ inner, project.files.get? inner = some content ∧ names = site.names ++ inner)

/-- Whether no specifier of a file climbs out of the project, read from the directory of the
    file. -/
def IsConfined (project : Project) (compile : Compiler) : Prop :=
  ∀ inner content, project.files.get? inner = some content → ∀ id unit,
    compile id content = .ok unit → ∀ s ∈ unit.imports, Confined (inner.length - 1) s

/-- The names of the module that is found under some names. -/
def pick (project : Project) (inner : List String) : List String :=
  if inner ∈ project.files.keys then inner
  else match inner.getLast? with
    | none => inner
    | some n =>
        if inner.dropLast ++ [n ++ Resolver.scriptEnding] ∈ project.files.keys then
          inner.dropLast ++ [n ++ Resolver.scriptEnding]
        else inner

/-- The files of a project, each at its path. -/
def filesAt (project : Project) (site : Site) : List (Path × String) :=
  project.files.toList.map fun e => (site.place e.1, e.2)

/-- **A flat store that was seeded with the files of a project** is one where the project lies. -/
theorem liesAt_ofFiles {project : Project} {site : Site} {store : FlatStore}
    (h : FlatStore.ofFiles (project.filesAt site) = .ok store) : project.LiesAt site store := by
  have hcanonical : ∀ inner ∈ project.files.keys, (site.place inner).IsCanonical :=
    fun inner hmem => ⟨_, Site.isName_append (project.isName inner hmem), rfl⟩
  have hnodup : ((project.filesAt site).map (FlatStore.key ·.1)).Nodup := by
    have hkeys : (project.filesAt site).map (FlatStore.key ·.1)
        = project.files.keys.map fun inner => FlatStore.key (site.place inner) := by
      rw [filesAt, OrderedMap.keys_eq_map, List.map_map, List.map_map]
      rfl
    rw [hkeys]
    refine List.Nodup.map_on (fun inner hinner inner' hinner' heq => ?_) project.files.keys_nodup
    exact Site.place_injective (project.isName inner hinner) (project.isName inner' hinner')
      (FlatStore.key_injective (hcanonical inner hinner) (hcanonical inner' hinner') heq)
  have hfile : ∀ names bytes, (∀ n ∈ names, IsName n) →
      (store.entries.get? (FlatStore.key (rooted names)) = some (.file bytes)
        ↔ ∃ inner content, project.files.get? inner = some content
            ∧ names = site.names ++ inner ∧ bytes = content.toUTF8) := by
    intro names bytes hnames
    rw [FlatStore.get?_ofFiles hnodup h]
    constructor
    · rintro ⟨file, hmem, hkey, rfl⟩
      obtain ⟨⟨inner, content⟩, hentry, rfl⟩ := List.mem_map.1 hmem
      have hmem := OrderedMap.mem_keys_of_mem hentry
      refine ⟨inner, content, (OrderedMap.get?_eq_some_iff_mem _ _ _).2 hentry, ?_, rfl⟩
      exact (Path.rooted_injective (Site.isName_append (project.isName inner hmem)) hnames
        (FlatStore.key_injective (hcanonical inner hmem) ⟨names, hnames, rfl⟩ hkey)).symm
    · rintro ⟨inner, content, hget, rfl, rfl⟩
      exact ⟨(site.place inner, content), List.mem_map.2
        ⟨_, (OrderedMap.get?_eq_some_iff_mem _ _ _).1 hget, rfl⟩, rfl, rfl⟩
  refine ⟨fun names hnames => ?_, fun names content hnames => ?_⟩
  · refine FlatStore.isFile_iff.trans ?_
    constructor
    · rintro ⟨bytes, hbytes⟩
      obtain ⟨inner, content, hget, hplace, -⟩ := (hfile names bytes hnames).1 hbytes
      exact ⟨inner, OrderedMap.mem_keys_of_get? hget, hplace⟩
    · rintro ⟨inner, hmem, hplace⟩
      obtain ⟨content, hget⟩ := OrderedMap.exists_get?_of_mem_keys hmem
      exact ⟨_, (hfile names _ hnames).2 ⟨inner, content, hget, hplace, rfl⟩⟩
  · refine FlatStore.read_eq_ok_iff.trans ((hfile names _ hnames).trans ?_)
    constructor
    · rintro ⟨inner, content', hget, hplace, hbytes⟩
      rw [String.toByteArray_inj.1 hbytes]
      exact ⟨inner, hget, hplace⟩
    · rintro ⟨inner, hget, hplace⟩
      exact ⟨inner, content, hget, hplace, rfl⟩

variable {σ : Type} [FileStore σ] {project : Project} {site : Site} {store : σ}
  {inner : List String}

lemma isName_pick (h : ∀ n ∈ inner, IsName n) : ∀ n ∈ project.pick inner, IsName n := by
  unfold pick
  split
  · exact h
  · split
    · exact h
    · split
      · next hmem => exact project.isName _ hmem
      · exact h

/-- Whether a place at the site is a file depends on the project only. -/
lemma LiesAt.isFile_place_iff (hlies : project.LiesAt site store) (h : ∀ n ∈ inner, IsName n) :
    FileStore.isFile store (site.place inner) = true ↔ inner ∈ project.files.keys := by
  rw [Site.place, hlies.isFile_iff _ (Site.isName_append h)]
  constructor
  · rintro ⟨inner', hmem, heq⟩
    rwa [List.append_cancel_left heq]
  · exact fun hmem => ⟨inner, hmem, rfl⟩

/-- With the script ending, the site itself is no file: it lies beside the site. -/
lemma LiesAt.isFile_withEnding_path (hlies : project.LiesAt site store) :
    FileStore.isFile store (Resolver.withEnding site.path) = false := by
  obtain ⟨before, n, hnames⟩ := site.names.eq_nil_or_concat'.resolve_left site.nonempty
  have hbefore : ∀ m ∈ before ++ [n ++ Resolver.scriptEnding], IsName m := by
    intro m hm
    have hsite := site.isName
    rw [hnames] at hsite
    rcases List.mem_append.1 hm with hm | hm
    · exact hsite m (by simp [hm])
    · rw [List.mem_singleton.1 hm]
      exact Resolver.isName_append_ending (.inr (hsite n (by simp)))
  rw [← Bool.not_eq_true, Site.path, hnames, Resolver.withEnding_rooted_snoc,
    hlies.isFile_iff _ hbefore]
  rintro ⟨inner, hmem, heq⟩
  have hlength := congrArg List.length heq
  rw [hnames] at hlength
  simp only [List.length_append, List.length_singleton] at hlength
  exact project.nonempty inner hmem (List.length_eq_zero_iff.1 (by omega))

/-- **Resolving a place at the site** depends on the project only. -/
lemma LiesAt.resolve_place (hlies : project.LiesAt site store) (cwd : Path)
    (h : ∀ n ∈ inner, IsName n) :
    Resolver.resolve ⟨cwd, store⟩ (site.place inner) = site.place (project.pick inner) := by
  rw [Resolver.resolve, pick]
  by_cases hmem : inner ∈ project.files.keys
  · rw [if_pos ((hlies.isFile_place_iff h).2 hmem), if_pos hmem]
  · rw [if_neg (mt (hlies.isFile_place_iff h).1 hmem), if_neg hmem]
    rcases inner.eq_nil_or_concat' with rfl | ⟨before, n, rfl⟩
    · rw [Site.place_nil, hlies.isFile_withEnding_path]
      simp
    · have hending : Resolver.withEnding (site.place (before ++ [n]))
          = site.place (before ++ [n ++ Resolver.scriptEnding]) := by
        rw [Site.place, ← List.append_assoc, Resolver.withEnding_rooted_snoc, List.append_assoc,
          Site.place]
      have hlonger : ∀ m ∈ before ++ [n ++ Resolver.scriptEnding], IsName m := by
        intro m hm
        rcases List.mem_append.1 hm with hm | hm
        · exact h m (by simp [hm])
        · rw [List.mem_singleton.1 hm]
          exact Resolver.isName_append_ending (.inr (h n (by simp)))
      rw [hending, List.getLast?_concat]
      simp only [List.dropLast_concat]
      by_cases hjs : before ++ [n ++ Resolver.scriptEnding] ∈ project.files.keys
      · rw [if_pos ((hlies.isFile_place_iff hlonger).2 hjs), if_pos hjs]
      · rw [if_neg (mt (hlies.isFile_place_iff hlonger).1 hjs), if_neg hjs]

/-- **A specifier that stays inside** leads to a place at the site. -/
lemma LiesAt.resolve_join (hlies : project.LiesAt site store) (h : ∀ n ∈ inner, IsName n)
    {s : String} (hs : Confined inner.length s) :
    Resolver.resolve ⟨site.path, store⟩ (Resolver.join ⟨site.path, store⟩ (site.place inner) s)
      = site.place (project.pick (follow inner s)) := by
  have habs : ((site.place inner).join ⟨s⟩).isAbsolute = true :=
    Path.isAbsolute_join (Path.isAbsolute_rooted _) _
  have hjoin : Resolver.join ⟨site.path, store⟩ (site.place inner) s
      = site.place (follow inner s) := by
    rw [Resolver.join]
    exact (if_pos habs).trans (Path.normal_join_rooted site.isName h hs)
  rw [hjoin, hlies.resolve_place _ (Path.follow_spec h s).1]

/-- A specifier without an importer is followed from the site itself. -/
lemma LiesAt.resolveId_none (hlies : project.LiesAt site store) {s : String} (hs : Confined 0 s) :
    Resolver.resolveId ⟨site.path, store⟩ none s = site.place (project.pick (follow [] s)) := by
  have hnone : ∀ n ∈ ([] : List String), IsName n := by simp
  have h := hlies.resolve_join hnone hs
  rwa [Site.place_nil] at h

/-- What a specifier of a file of the project leads to. -/
lemma LiesAt.resolveId_some (hlies : project.LiesAt site store) (hmem : inner ∈ project.files.keys)
    {s : String} (hs : Confined (inner.length - 1) s) :
    Resolver.resolveId ⟨site.path, store⟩ (some (site.place inner)) s
      = site.place (project.pick (follow inner.dropLast s)) := by
  have hnames := project.isName inner hmem
  obtain ⟨before, n, rfl⟩ := inner.eq_nil_or_concat'.resolve_left (project.nonempty inner hmem)
  have hdirectory : ModuleId.directory (site.place (before ++ [n])) = site.place before := by
    rw [Site.place, ← List.append_assoc, ModuleId.directory_rooted, Site.place]
    rw [List.append_assoc]
    exact Site.isName_append hnames
  rw [List.length_append, List.length_singleton, Nat.add_sub_cancel] at hs
  rw [List.dropLast_concat, Resolver.resolveId, Option.map_some, Option.getD_some, hdirectory]
  exact hlies.resolve_join (fun m hm => hnames m (by simp [hm])) hs

open Discovery (Reachable Relocation Relocated Yields)

/-- What the modules of a project yield. -/
lemma LiesAt.yields_iff (hlies : project.LiesAt site store) {compile : Compiler}
    (h : ∀ n ∈ inner, IsName n) (unit : CompiledModule) :
    Yields ⟨site.path, store⟩ compile (site.place inner) unit
      ↔ ∃ content, project.files.get? inner = some content
          ∧ compile (site.place inner) content = .ok unit := by
  refine exists_congr fun content => and_congr_left fun _ => ?_
  change FileStore.read store _ = _ ↔ _
  rw [Site.place, hlies.read_iff _ _ (Site.isName_append h)]
  constructor
  · rintro ⟨inner', hget, heq⟩
    rwa [List.append_cancel_left heq]
  · exact fun hget => ⟨inner, hget, rfl⟩

section Move

variable {τ : Type} [FileStore τ] {site' : Site} {store' : τ} {compile : Compiler}
  {entry : String}

/-- Everything that can be reached lies at the site. -/
lemma LiesAt.exists_inner (hlies : project.LiesAt site store)
    (hconfined : project.IsConfined compile) (hentry : Confined 0 entry) {id : ModuleId}
    (hid : Reachable ⟨site.path, store⟩ compile (Resolver.resolveId ⟨site.path, store⟩ none entry)
      id) :
    ∃ inner, (∀ n ∈ inner, IsName n) ∧ id = site.place inner := by
  induction hid with
  | entry =>
      exact ⟨_, isName_pick (Path.follow_spec (by simp) entry).1, hlies.resolveId_none hentry⟩
  | @step id unit s hid hunit himport ih =>
      obtain ⟨inner, hinner, rfl⟩ := ih
      obtain ⟨content, hget, hcompile⟩ := (hlies.yields_iff hinner unit).1 hunit
      have hmem := OrderedMap.mem_keys_of_get? hget
      have hdrop : ∀ n ∈ inner.dropLast, IsName n := fun n hn =>
        hinner n (List.dropLast_subset _ hn)
      exact ⟨_, isName_pick (Path.follow_spec hdrop s).1, hlies.resolveId_some hmem
        (hconfined inner content hget _ unit hcompile s himport)⟩

/-- **Moving the site** is a relocation. -/
theorem LiesAt.relocation (hlies : project.LiesAt site store) (hlies' : project.LiesAt site' store')
    (hcompile : compile.IgnoresId) (hconfined : project.IsConfined compile)
    (hentry : Confined 0 entry) :
    Relocation ⟨site.path, store⟩ compile (Resolver.resolveId ⟨site.path, store⟩ none entry)
      ⟨site'.path, store'⟩ compile (site.move site') where
  injective a b ha hb heq := by
    obtain ⟨inner, hinner, rfl⟩ := hlies.exists_inner hconfined hentry ha
    obtain ⟨inner', hinner', rfl⟩ := hlies.exists_inner hconfined hentry hb
    rw [Site.move_place hinner, Site.move_place hinner'] at heq
    rw [Site.place_injective hinner hinner' heq]
  yields id unit hid hunit := by
    obtain ⟨inner, hinner, rfl⟩ := hlies.exists_inner hconfined hentry hid
    obtain ⟨content, hget, hunit⟩ := (hlies.yields_iff hinner unit).1 hunit
    rw [Site.move_place hinner]
    exact (hlies'.yields_iff hinner unit).2 ⟨content, hget, hcompile _ _ _ _ hunit⟩
  resolve id unit s hid hunit himport := by
    obtain ⟨inner, hinner, rfl⟩ := hlies.exists_inner hconfined hentry hid
    obtain ⟨content, hget, hunit⟩ := (hlies.yields_iff hinner unit).1 hunit
    have hmem := OrderedMap.mem_keys_of_get? hget
    have hs := hconfined inner content hget _ unit hunit s himport
    have hdrop : ∀ n ∈ inner.dropLast, IsName n := fun n hn =>
      hinner n (List.dropLast_subset _ hn)
    rw [Site.move_place hinner, hlies'.resolveId_some hmem hs, hlies.resolveId_some hmem hs,
      Site.move_place (isName_pick (Path.follow_spec hdrop s).1)]

/-- The stable id of a place is the same at every site. -/
lemma stable_move (hinner : ∀ n ∈ inner, IsName n) :
    ModuleId.stable (site.move site' (site.place inner)) site'.path
      = ModuleId.stable (site.place inner) site.path := by
  rw [Site.move_place hinner, Site.place, Site.path, Site.place, Site.path,
    ModuleId.stable_rooted site'.isName hinner, ModuleId.stable_rooted site.isName hinner]

end Move

end Project

/-! ## What is written about a moved graph -/

open Discovery (Reachable Relocated)

namespace Bundle

variable {g g' : DependencyGraph} {f : ModuleId → ModuleId} {cwd cwd' : Path}

/-- A relocation that keeps stable ids keeps the rows of a table. -/
lemma row_relocate {id : ModuleId} {record : ModuleRecord}
    (hid : ModuleId.stable (f id) cwd' = ModuleId.stable id cwd)
    (htargets : ∀ target ∈ record.importMap.values,
      ModuleId.stable (f target) cwd' = ModuleId.stable target cwd) :
    row cwd' (f id) (record.relocate f) = row cwd id record := by
  have himports : (record.importMap.mapValues f).toList.map
        (fun e => (e.1, ModuleId.stable e.2 cwd'))
      = record.importMap.toList.map fun e => (e.1, ModuleId.stable e.2 cwd) := by
    rw [OrderedMap.toList_mapValues, List.map_map]
    exact List.map_congr_left fun e he => congrArg (Prod.mk e.1)
      (htargets e.2 (List.mem_map.2 ⟨e, he, rfl⟩))
  rw [row, row, hid]
  exact congrArg (Row.mk _ · _) himports

/-- A relocation that keeps stable ids keeps the manifest. -/
lemma manifest_relocate (hentry : g'.entry = f g.entry)
    (hmodules : g'.modules.toList = g.modules.toList.map fun e => (f e.1, e.2.relocate f))
    (hstable : ∀ id, id = g.entry ∨ id ∈ g.ids
        ∨ (∃ owner record, g.get? owner = some record ∧ id ∈ record.importMap.values) →
      ModuleId.stable (f id) cwd' = ModuleId.stable id cwd) :
    manifest g' cwd' = manifest g cwd := by
  have hrows : g'.modules.toList.map (fun e => row cwd' e.1 e.2)
      = g.modules.toList.map fun e => row cwd e.1 e.2 := by
    rw [hmodules, List.map_map]
    refine List.map_congr_left fun e he => row_relocate
      (hstable e.1 (.inr (.inl (List.mem_map.2 ⟨e, he, rfl⟩)))) fun target htarget => ?_
    exact hstable target (.inr (.inr
      ⟨e.1, e.2, (OrderedMap.get?_eq_some_iff_mem _ _ _).2 he, htarget⟩))
  rw [manifest, manifest, hrows, hentry, hstable g.entry (.inl rfl)]

end Bundle

namespace Build

variable {σ τ : Type} [FileStore σ] [FileStore τ] {project : Project} {site site' : Site}
  {store : σ} {store' : τ} {compile : Compiler} {entry : String}

/-- The settings of a build at a site. -/
def settingsAt (site : Site) (entry directory fileName : String) : Settings :=
  ⟨entry, site.path, directory, fileName⟩

/-- A build that succeeds at one site succeeds at another, with the same outcome. -/
lemma generate_of_liesAt (hlies : project.LiesAt site store)
    (hlies' : project.LiesAt site' store') (hcompile : compile.IgnoresId)
    (hconfined : project.IsConfined compile) (hentry : Confined 0 entry)
    {directory fileName : String} {build : Build}
    (h : generate (settingsAt site entry directory fileName) store compile = .ok build) :
    generate (settingsAt site' entry directory fileName) store' compile = .ok build := by
  obtain ⟨found, hscan, rfl⟩ := exists_scan_of_generate h
  obtain ⟨reached, hrun, -, rfl⟩ := Scan.scan_eq_ok_iff.1 hscan
  have hexplored := Scan.explored_of_scan hrun
  have hstart : Scan.entry (settingsAt site' entry directory fileName) store'
      = site.move site' (Scan.entry (settingsAt site entry directory fileName) store) := by
    change Resolver.resolveId ⟨site'.path, store'⟩ none entry
      = site.move site' (Resolver.resolveId ⟨site.path, store⟩ none entry)
    rw [hlies'.resolveId_none hentry, hlies.resolveId_none hentry, Site.move_place]
    exact Project.isName_pick (Path.follow_spec (by simp) entry).1
  have hstable : ∀ id,
      Reachable (Scan.resolver (settingsAt site entry directory fileName) store) compile
        (Scan.entry (settingsAt site entry directory fileName) store) id →
      ModuleId.stable (site.move site' id) site'.path = ModuleId.stable id site.path := by
    intro id hid
    obtain ⟨inner, hinner, rfl⟩ := hlies.exists_inner hconfined hentry hid
    exact Project.stable_move hinner
  obtain ⟨reached', hrun', hmoved⟩ := Discovery.discover_relocate
    (hlies.relocation hlies' hcompile hconfined hentry) hrun
  replace hrun' : Discovery.discover
      (Scan.resolver (settingsAt site' entry directory fileName) store') compile
      (Scan.entry (settingsAt site' entry directory fileName) store')
        = some ⟨reached', none⟩ := by
    rw [hstart]
    exact hrun'
  have hmanifest : Bundle.manifest reached'.graph site'.path
      = Bundle.manifest reached.graph site.path := by
    refine Bundle.manifest_relocate hmoved.entry hmoved.modules fun id hid => hstable id ?_
    refine (hexplored.mem_ids id).1 ?_
    rcases hid with rfl | hid | ⟨owner, record, hrecord, htarget⟩
    · rw [hexplored.graph_entry]
      exact (hexplored.mem_ids _).2 .entry
    · exact hid
    · exact hexplored.targets owner record hrecord id htarget
  have hwarnings : reached'.cycles.map (Scan.cycleWarning site'.path)
      = reached.cycles.map (Scan.cycleWarning site.path) := by
    rw [hmoved.cycles, List.map_map]
    refine List.map_congr_left fun cycle hcycle => ?_
    have hids : (cycle.map (site.move site')).map (ModuleId.stable · site'.path)
        = cycle.map (ModuleId.stable · site.path) := by
      rw [List.map_map]
      refine List.map_congr_left fun id hid => hstable id ?_
      exact Discovery.Within.reachable_of_mem_cycle hrun hcycle hid
    exact congrArg (fun ids => "Circular dependency: " ++ " -> ".intercalate ids ++ ".") hids
  have hdiscovery : Scan.discovery (settingsAt site' entry directory fileName) store' compile
      = ⟨reached', none⟩ := by
    rw [Scan.discovery, hrun', Option.getD_some]
  have hscan' : Scan.scan (settingsAt site' entry directory fileName) store' compile
      = .ok ⟨reached'.graph, reached'.cycles.map (Scan.cycleWarning site'.path)⟩ :=
    Scan.scan_eq_ok_iff.2 ⟨reached', hrun', hdiscovery, rfl⟩
  have hrender : Bundle.render reached'.graph site'.path
      = Bundle.render reached.graph site.path := by
    rw [Bundle.render_eq_text, hmanifest, Bundle.render_eq_text]
  rw [generate, hscan', hwarnings]
  exact congrArg (fun text => Except.ok (⟨[⟨fileName, text⟩], _⟩ : Build)) hrender

/-- If all files of a project compile, and the entry and every specifier lead to files, then a build
    succeeds where the project lies. -/
lemma exists_generate {project : Project} {site : Site} {store : FlatStore} {compile : Compiler}
    {entry : String} (hlies : project.LiesAt site store) (hconfined : project.IsConfined compile)
    (hentry : Confined 0 entry) (hstart : project.pick (follow [] entry) ∈ project.files.keys)
    (hfiles : ∀ inner content, project.files.get? inner = some content → ∀ id, ∃ unit,
      compile id content = .ok unit
        ∧ ∀ s ∈ unit.imports, project.pick (follow inner.dropLast s) ∈ project.files.keys)
    (directory fileName : String) :
    ∃ build, generate (settingsAt site entry directory fileName) store compile = .ok build := by
  have hreach : ∀ id, Reachable ⟨site.path, store⟩ compile
        (Resolver.resolveId ⟨site.path, store⟩ none entry) id →
      ∃ inner ∈ project.files.keys, id = site.place inner := by
    intro id hid
    induction hid with
    | entry => exact ⟨_, hstart, hlies.resolveId_none hentry⟩
    | @step id unit s hid hunit himport ih =>
        obtain ⟨inner, hmem, rfl⟩ := ih
        obtain ⟨content, hget, hcompile⟩ :=
          (hlies.yields_iff (project.isName inner hmem) unit).1 hunit
        obtain ⟨unit', hunit', htargets⟩ := hfiles inner content hget (site.place inner)
        cases hcompile.symm.trans hunit'
        exact ⟨_, htargets s himport, hlies.resolveId_some hmem
          (hconfined inner content hget _ unit hcompile s himport)⟩
  obtain ⟨found, hscan⟩ := (Scan.exists_scan_iff (settingsAt site entry directory fileName) store
    compile (Path.isAbsolute_rooted _)).2 fun id hid => by
      obtain ⟨inner, hmem, rfl⟩ := hreach id hid
      obtain ⟨content, hget⟩ := OrderedMap.exists_get?_of_mem_keys hmem
      obtain ⟨unit, hunit, -⟩ := hfiles inner content hget (site.place inner)
      exact ⟨unit, (hlies.yields_iff (project.isName inner hmem) unit).2 ⟨content, hget, hunit⟩⟩
  exact ⟨_, by rw [generate, hscan]; rfl⟩

/-- **The artifact does not depend on where the project lies.**  Take a compiler that makes the same
    of a source wherever it was found, and a project whose entry and specifiers stay inside.  If
    the project lies at two sites, then a build at the one succeeds exactly if it does at the other,
    and both bring forth the same bundle and the same warnings. -/
theorem generate_eq_ok_iff (project : Project) (site site' : Site) (store : σ) (store' : τ)
    (compile : Compiler) (entry directory fileName : String) (hlies : project.LiesAt site store)
    (hlies' : project.LiesAt site' store') (hcompile : compile.IgnoresId)
    (hconfined : project.IsConfined compile) (hentry : Confined 0 entry) (build : Build) :
    generate (settingsAt site entry directory fileName) store compile = .ok build
      ↔ generate (settingsAt site' entry directory fileName) store' compile = .ok build :=
  ⟨generate_of_liesAt hlies hlies' hcompile hconfined hentry,
    generate_of_liesAt hlies' hlies hcompile hconfined hentry⟩

/-- Two files in two directories, each of which is the specifier of the other. -/
def crossProject : Project where
  files := .ofList [(["a.js"], "./b/c"), (["b", "c.js"], "../a")]
  nonempty := by decide +kernel
  isName := by decide +kernel

/-- The two files build alike below `/p` and below `/q/r`. -/
theorem generate_eq_ok_iff_cross :
    ∃ (site site' : Site) (store store' : FlatStore),
      site.path = ⟨"/p"⟩ ∧ site'.path = ⟨"/q/r"⟩
        ∧ crossProject.LiesAt site store ∧ crossProject.LiesAt site' store'
        ∧ Scan.compileSpecifier.IgnoresId ∧ crossProject.IsConfined Scan.compileSpecifier
        ∧ Confined 0 "a"
        ∧ ∃ build,
            generate (settingsAt site "a" "dist" "bundle.js") store Scan.compileSpecifier
                = .ok build
              ∧ generate (settingsAt site' "a" "dist" "bundle.js") store' Scan.compileSpecifier
                  = .ok build := by
  let site : Site := ⟨["p"], by decide +kernel, by decide +kernel⟩
  let site' : Site := ⟨["q", "r"], by decide +kernel, by decide +kernel⟩
  have hseeded : ∀ s : Site, (FlatStore.ofFiles (crossProject.filesAt s)).isOk = true →
      ∃ store : FlatStore, crossProject.LiesAt s store := by
    intro s hs
    cases h : FlatStore.ofFiles (crossProject.filesAt s) with
    | ok store => exact ⟨store, Project.liesAt_ofFiles h⟩
    | error problem =>
        rw [h] at hs
        cases hs
  obtain ⟨store, hlies⟩ := hseeded site (by decide +kernel)
  obtain ⟨store', hlies'⟩ := hseeded site' (by decide +kernel)
  have hignores : Scan.compileSpecifier.IgnoresId := fun _ _ _ _ h => h
  have hfiles : ∀ inner content, crossProject.files.get? inner = some content →
      (inner = ["a.js"] ∧ content = "./b/c") ∨ (inner = ["b", "c.js"] ∧ content = "../a") := by
    intro inner content hget
    have hmem := (OrderedMap.get?_eq_some_iff_mem _ _ _).1 hget
    change (inner, content) ∈ [(["a.js"], "./b/c"), (["b", "c.js"], "../a")] at hmem
    simpa using hmem
  have hconfined : crossProject.IsConfined Scan.compileSpecifier := by
    intro inner content hget id unit hcompile s hs
    cases hcompile
    cases List.mem_singleton.1 hs
    rcases hfiles inner content hget with ⟨rfl, rfl⟩ | ⟨rfl, rfl⟩ <;> decide +kernel
  have hentry : Confined 0 "a" := by decide +kernel
  have hbuilds : ∀ inner content, crossProject.files.get? inner = some content → ∀ id, ∃ unit,
      Scan.compileSpecifier id content = .ok unit ∧ ∀ s ∈ unit.imports,
        crossProject.pick (follow inner.dropLast s) ∈ crossProject.files.keys := by
    intro inner content hget id
    refine ⟨_, rfl, fun s hs => ?_⟩
    cases List.mem_singleton.1 hs
    rcases hfiles inner content hget with ⟨rfl, rfl⟩ | ⟨rfl, rfl⟩ <;> decide +kernel
  obtain ⟨build, hbuild⟩ := exists_generate hlies hconfined hentry (by decide +kernel) hbuilds
    "dist" "bundle.js"
  exact ⟨site, site', store, store', by decide +kernel, by decide +kernel, hlies, hlies', hignores,
    hconfined, hentry, build, hbuild,
    (generate_eq_ok_iff crossProject site site' store store' _ "a" "dist" "bundle.js" hlies hlies'
      hignores hconfined hentry build).1 hbuild⟩

end Build

end ModuleBundler
