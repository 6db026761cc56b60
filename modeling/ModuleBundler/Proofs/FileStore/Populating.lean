import Mathlib.Data.List.Infix
import ModuleBundler.Proofs.Bundle.Spelling
import ModuleBundler.Proofs.FileStore.Mirror

/-!
# Seeding under canonical paths

Files can be seeded into an empty store in any order, where one path may come again and one may be
an ancestor of another.

**Ancestors.**  The ancestors of a canonical path, the root first, are the stations on the way to
its parent (`reverse_ancestors_rooted`).  So a file is added by making sure of the directory that it
is in and then writing it, and neither can fail (`exists_seed`).

**Populated stores** hold the given files, each with what was last given for it, and nothing else
but directories on the way to them (`Populated`).  A file more leaves a populated store behind
(`Populated.seed`), and so all of them do (`ofFiles_populated`).
-/

namespace ModuleBundler

open ModuleBundler.Path (IsCanonical IsName IsRouteStep fromSteps rooted)

namespace Path

lemma isRouteStep_of_names {names : List String} (h : ∀ n ∈ names, IsName n) :
    ∀ c ∈ names.map Component.name, IsRouteStep c := by
  intro c hc
  obtain ⟨n, hn, rfl⟩ := List.mem_map.1 hc
  exact .inr ⟨n, h n hn, rfl⟩

lemma steps_rooted {names : List String} (h : ∀ n ∈ names, IsName n) :
    (rooted names).steps = names.map .name := by
  have hcomponents := components_rooted h
  rw [components_of_isAbsolute (isAbsolute_rooted names)] at hcomponents
  exact (List.cons.inj hcomponents).2

/-- On the way to a canonical path are the paths that its first names lead to. -/
lemma onWayTo_rooted_iff {names : List String} (h : ∀ n ∈ names, IsName n) {q : Path} :
    q.OnWayTo (rooted names) ↔ ∃ first, first <+: names ∧ q = rooted first := by
  rw [OnWayTo, steps_rooted h]
  constructor
  · rintro ⟨steps, hsteps, rfl⟩
    obtain ⟨first, hfirst, rfl⟩ := List.prefix_map_iff.1 hsteps
    exact ⟨first, hfirst, rfl⟩
  · rintro ⟨first, hfirst, rfl⟩
    exact ⟨first.map .name, hfirst.map _, rfl⟩

/-- The way to a canonical path is the way to its parent and the path itself. -/
lemma onWayTo_snoc_iff {names : List String} {n : String} (h : ∀ m ∈ names ++ [n], IsName m)
    {q : Path} :
    q.OnWayTo (rooted (names ++ [n]))
      ↔ q = rooted (names ++ [n]) ∨ q.OnWayTo (rooted names) := by
  rw [onWayTo_rooted_iff h, onWayTo_rooted_iff fun m hm => h m (by simp [hm])]
  constructor
  · rintro ⟨first, hfirst, rfl⟩
    rcases List.prefix_concat_iff.1 hfirst with rfl | hfirst
    · exact .inl rfl
    · exact .inr ⟨first, hfirst, rfl⟩
  · rintro (rfl | ⟨first, hfirst, rfl⟩)
    · exact ⟨_, List.prefix_rfl, rfl⟩
    · exact ⟨first, hfirst.trans (List.prefix_append names [n]), rfl⟩

lemma IsCanonical.onWayTo_self {p : Path} (h : IsCanonical p) : p.OnWayTo p := by
  obtain ⟨names, hnames, rfl⟩ := h
  exact (onWayTo_rooted_iff hnames).2 ⟨names, List.prefix_rfl, rfl⟩

/-- A canonical path other than the root has a last name. -/
lemma IsCanonical.exists_snoc {p : Path} (h : IsCanonical p) (hne : p ≠ ⟨"/"⟩) :
    ∃ names n, (∀ m ∈ names ++ [n], IsName m) ∧ p = rooted (names ++ [n]) := by
  obtain ⟨names, hnames, rfl⟩ := h
  rcases names.eq_nil_or_concat' with rfl | ⟨before, n, rfl⟩
  · exact absurd rfl hne
  · exact ⟨before, n, hnames, rfl⟩

/-! ## Ancestors -/

lemma ancestorsUpTo_root (limit : ℕ) : ancestorsUpTo limit (rooted []) = [] := by
  have hroot : (rooted []).parent? = none := by decide +kernel
  cases limit with
  | zero => rfl
  | succ limit => rw [ancestorsUpTo, hroot]

/-- Each ancestor drops one name more, down to the root. -/
lemma reverse_ancestorsUpTo {names : List String} {n : String}
    (h : ∀ m ∈ names ++ [n], IsName m) {limit : ℕ} (hlimit : names.length < limit) :
    (ancestorsUpTo limit (rooted (names ++ [n]))).reverse = names.inits.map rooted := by
  induction names using List.reverseRecOn generalizing n limit with
  | nil =>
      cases limit with
      | zero => simp at hlimit
      | succ limit =>
          rw [ancestorsUpTo, parent?_rooted h]
          simp only [ancestorsUpTo_root]
          rfl
  | append_singleton before m ih =>
      cases limit with
      | zero => simp at hlimit
      | succ limit =>
          have hbefore : ∀ m' ∈ before ++ [m], IsName m' := fun m' hm' =>
            h m' (List.mem_append_left [n] hm')
          have hlimit' : before.length < limit := by
            rw [List.length_append, List.length_singleton] at hlimit
            omega
          rw [ancestorsUpTo, parent?_rooted h]
          simp only [List.reverse_cons]
          rw [ih hbefore hlimit', List.inits_append]
          simp

/-- A path has more characters than names. -/
lemma length_lt_length_rooted (names : List String) :
    names.length < (rooted names).text.length + 1 := by
  induction names using List.reverseRecOn with
  | nil => simp
  | append_singleton before n ih =>
      have hmark : "/".length = 1 := rfl
      rw [text_rooted_snoc, String.length_append, List.length_append, List.length_singleton, lead]
      split
      · next hnil =>
          rw [hnil, List.length_nil]
          omega
      · rw [String.length_append]
        omega

/-- **The ancestors of a canonical path**, from the root to its parent. -/
lemma reverse_ancestors_rooted {names : List String} {n : String}
    (h : ∀ m ∈ names ++ [n], IsName m) :
    (rooted (names ++ [n])).ancestors.reverse = names.inits.map rooted := by
  refine reverse_ancestorsUpTo h ?_
  have hlength := length_lt_length_rooted (names ++ [n])
  rw [List.length_append] at hlength
  omega

end Path

namespace Asset

/-- The stations behind some names are the paths that lead on from there. -/
lemma cons_stations_names {before names : List String} (h : ∀ m ∈ before ++ names, IsName m) :
    rooted before :: stations (rooted before) (names.map .name)
      = names.inits.map fun more => rooted (before ++ more) := by
  induction names generalizing before with
  | nil => simp [stations]
  | cons n rest ih =>
      have hbefore : ∀ c ∈ before.map Path.Component.name, IsRouteStep c :=
        Path.isRouteStep_of_names fun m hm => h m (by simp [hm])
      have hn : IsRouteStep (.name n) := .inr ⟨n, h n (by simp), rfl⟩
      have hnext : stations (rooted before) (.name n :: rest.map .name)
          = rooted (before ++ [n]) :: stations (rooted (before ++ [n])) (rest.map .name) := by
        have hcons := stations_cons hbefore hn (rest.map .name)
        rw [← List.map_singleton, ← List.map_append] at hcons
        exact hcons
      rw [List.map_cons, hnext, ih (by simpa using h), List.inits_cons]
      simp

/-- The stations of the way to a canonical path, with the root in front of them. -/
lemma cons_stations_rooted {names : List String} (h : ∀ m ∈ names, IsName m) :
    rooted [] :: stations ⟨""⟩ (rooted names).components = names.inits.map rooted := by
  rw [stations_components (Path.isAbsolute_rooted names), Path.steps_rooted h]
  exact @cons_stations_names [] names h

end Asset

namespace FlatStore

variable {store : FlatStore} {files : List (Path × String)} {k : String}

/-! ## One file -/

/-- **Seeding a file** makes sure of the directory that it is in and writes it, and cannot fail. -/
lemma exists_seed {names : List String} {n : String} (hroot : "" ∈ store.entries.keys)
    (h : ∀ m ∈ names ++ [n], IsName m) (content : String) :
    ∃ ready, Asset.ensureDirectory store (rooted names) = (ready, none)
      ∧ store.seed (rooted (names ++ [n]), content)
          = .ok (ready.withFile (rooted (names ++ [n])) content.toUTF8) := by
  have hnames : ∀ m ∈ names, IsName m := fun m hm => h m (List.mem_append_left [n] hm)
  have habsolute := Path.isAbsolute_rooted names
  obtain ⟨ready, hensure⟩ := Asset.exists_ensureDirectory hroot habsolute
  refine ⟨ready, hensure, ?_⟩
  -- The root is there, so creating the ancestors is making sure of the parent.
  have hways : Asset.createMissing store (rooted (names ++ [n])).ancestors.reverse
      = (ready, none) := by
    have hthere : FileStore.present store (rooted []) = true := present_iff.2 (.inl key_root)
    rw [Path.reverse_ancestors_rooted h, ← Asset.cons_stations_rooted hnames, Asset.createMissing,
      if_pos hthere]
    exact hensure
  have hcreate : store.createMissing (rooted (names ++ [n])).ancestors.reverse
      = (ready, none) := by
    obtain ⟨hstore, hdone⟩ := createMissing_eq (rooted (names ++ [n])).ancestors.reverse store
    rw [hways] at hstore hdone
    exact Prod.ext hstore (hdone rfl)
  have hparent : ready.hasParent (key (rooted (names ++ [n]))) = true := by
    have hready : "" ∈ ready.entries.keys :=
      (Asset.mem_keys_of_ensured hroot habsolute hensure).2 (.inl hroot)
    rw [hasParent_iff_mem (parentKey?_rooted h), ← present_iff_mem_keys hready]
    have hcanonical : IsCanonical (rooted names) := ⟨names, hnames, rfl⟩
    exact Asset.present_onWay habsolute hensure hcanonical.onWayTo_self
  rw [seed, addFile, hcreate]
  simp only [write, if_pos hparent]
  rfl

/-- What is there once a directory has been made sure of: what was there before, and the way. -/
lemma mem_keys_of_way (hroot : "" ∈ store.entries.keys) {directory : Path}
    (habsolute : directory.isAbsolute = true) {ready : FlatStore}
    (hensure : Asset.ensureDirectory store directory = (ready, none)) :
    k ∈ ready.entries.keys
      ↔ k ∈ store.entries.keys ∨ ∃ q : Path, q.OnWayTo directory ∧ k = key q := by
  rw [Asset.mem_keys_of_ensured hroot habsolute hensure]
  refine or_congr_right ⟨?_, ?_⟩
  · rintro ⟨steps, hsteps, rfl⟩
    refine ⟨fromSteps steps, ⟨steps, hsteps, rfl⟩, (key_fromSteps fun c hc => ?_).symm⟩
    exact Path.isRouteStep_of_mem_steps (hsteps.subset hc)
  · rintro ⟨q, ⟨steps, hsteps, rfl⟩, rfl⟩
    refine ⟨steps, hsteps, key_fromSteps fun c hc => ?_⟩
    exact Path.isRouteStep_of_mem_steps (hsteps.subset hc)

/-! ## All files -/

/-- **What was last given** for a key. -/
def lastContent? (k : String) (files : List (Path × String)) : Option String :=
  (files.filterMap fun file => if key file.1 = k then some file.2 else none).getLast?

lemma lastContent?_append (k : String) (before after : List (Path × String)) :
    lastContent? k (before ++ after)
      = (lastContent? k after).or (lastContent? k before) := by
  rw [lastContent?, List.filterMap_append, List.getLast?_append, ← lastContent?, ← lastContent?]

/-- The last file with a key gives its content. -/
lemma lastContent?_concat (k : String) (files : List (Path × String)) (p : Path)
    (content : String) :
    lastContent? k (files ++ [(p, content)])
      = if key p = k then some content else lastContent? k files := by
  rw [lastContent?_append]
  have hsole : lastContent? k [(p, content)] = if key p = k then some content else none := by
    split <;> simp_all [lastContent?]
  rw [hsole]
  split <;> rfl

lemma lastContent?_eq_none_iff :
    lastContent? k files = none ↔ ∀ file ∈ files, key file.1 ≠ k := by
  rw [lastContent?, List.getLast?_eq_none_iff, List.filterMap_eq_nil_iff]
  simp

/-- **A populated store**: the keys are the root and those of the paths on the way to some file, and
    under each stands what was last given for it, or a directory. -/
structure Populated (files : List (Path × String)) (store : FlatStore) : Prop where
  mem_keys : ∀ k, k ∈ store.entries.keys
    ↔ k = "" ∨ ∃ file ∈ files, ∃ q : Path, q.OnWayTo file.1 ∧ k = key q
  entry : ∀ k ∈ store.entries.keys, store.entries.get? k
    = some ((lastContent? k files).elim .directory fun content => .file content.toUTF8)

lemma populated_empty : Populated [] empty := by
  have hkeys : empty.entries.keys = [""] := by decide +kernel
  refine ⟨fun k => by simp [hkeys], fun k hk => ?_⟩
  rw [hkeys, List.mem_singleton] at hk
  rw [hk, empty, OrderedMap.ofList, List.foldl_cons, List.foldl_nil, OrderedMap.get?_insert,
    if_pos rfl]
  rfl

namespace Populated

lemma root_mem_keys (h : Populated files store) : "" ∈ store.entries.keys :=
  (h.mem_keys "").2 (.inl rfl)

lemma key_mem_keys (h : Populated files store) (hfiles : ∀ file ∈ files, IsCanonical file.1) :
    ∀ file ∈ files, key file.1 ∈ store.entries.keys := fun file hfile =>
  (h.mem_keys _).2 (.inr ⟨file, hfile, file.1, (hfiles file hfile).onWayTo_self, rfl⟩)

/-- **A file more** leaves a populated store behind. -/
lemma seed (h : Populated files store) (hfiles : ∀ file ∈ files, IsCanonical file.1) {p : Path}
    (hp : IsCanonical p) (hne : p ≠ ⟨"/"⟩) (content : String) :
    ∃ next, store.seed (p, content) = .ok next ∧ Populated (files ++ [(p, content)]) next := by
  obtain ⟨names, n, hnames, rfl⟩ := hp.exists_snoc hne
  obtain ⟨ready, hensure, hseed⟩ := exists_seed h.root_mem_keys hnames content
  have habsolute := Path.isAbsolute_rooted names
  refine ⟨_, hseed, fun k => ?_, fun k hk => ?_⟩
  · have hway : (∃ q : Path, q.OnWayTo (rooted (names ++ [n])) ∧ k = key q)
        ↔ k = key (rooted (names ++ [n])) ∨ ∃ q : Path, q.OnWayTo (rooted names) ∧ k = key q := by
      simp only [Path.onWayTo_snoc_iff hnames, or_and_right, exists_or, exists_eq_left]
    have hready := mem_keys_of_way (k := k) h.root_mem_keys habsolute hensure
    simp only [withFile, OrderedMap.mem_keys_insert, hready, h.mem_keys, List.mem_append,
      List.mem_singleton, or_and_right, exists_or, exists_eq_left, hway]
    -- The alternatives are the same on both sides, in another order.
    exact (or_congr_right or_assoc).trans (or_left_comm.trans (or_congr_right or_left_comm))
  · rw [get?_withFile, lastContent?_concat]
    split
    · rfl
    · next hother =>
        have hkready : k ∈ ready.entries.keys :=
          ((OrderedMap.mem_keys_insert ..).1 hk).resolve_left (Ne.symm hother)
        by_cases hold : k ∈ store.entries.keys
        · have hsame : (Asset.ensureDirectory store (rooted names)).1.entries.get? k
              = store.entries.get? k := Asset.get?_ensureDirectory hold
          rw [hensure] at hsame
          exact hsame.trans (h.entry k hold)
        · -- A new key is that of a directory, and no file has it.
          have hnone : lastContent? k files = none := by
            refine lastContent?_eq_none_iff.2 fun file hfile hsame => hold ?_
            rw [← hsame]
            exact h.key_mem_keys hfiles file hfile
          have hnew := (Asset.new_of_ensureDirectory (k := k) habsolute (by rwa [hensure]) hold).2
          rw [hensure] at hnew
          rw [hnone]
          exact hnew

end Populated

/-- **Seeding cannot fail.** -/
theorem ofFiles_populated
    (hfiles : ∀ file ∈ files, IsCanonical file.1 ∧ file.1 ≠ ⟨"/"⟩) :
    ∃ store, ofFiles files = .ok store ∧ Populated files store := by
  induction files using List.reverseRecOn with
  | nil => exact ⟨empty, rfl, populated_empty⟩
  | append_singleton before last ih =>
      obtain ⟨store, hbefore, hpopulated⟩ := ih fun file hfile => hfiles file (by simp [hfile])
      obtain ⟨hlast, hne⟩ := hfiles last (by simp)
      obtain ⟨next, hseed, hnext⟩ := hpopulated.seed
        (fun file hfile => (hfiles file (by simp [hfile])).1) hlast hne last.2
      refine ⟨next, ?_, hnext⟩
      rw [ofFiles_eq_foldlM] at hbefore ⊢
      rw [List.foldlM_append, hbefore]
      show List.foldlM FlatStore.seed store [last] = .ok next
      rw [List.foldlM_cons, hseed]
      rfl

/-- **Seeding populates a store.**  Take files whose paths are canonical and not the root, in any
    order, where one path may come again and one may be an ancestor of another.  Seeding them
    succeeds.  Each of their paths is a file, which reads as what was last given for it.  Everything
    on the way to one of them is there, and nothing else but the root.  What is not one of the files
    is a directory. -/
theorem ofFiles_populates (hfiles : ∀ file ∈ files, IsCanonical file.1 ∧ file.1 ≠ ⟨"/"⟩) :
    ∃ store, ofFiles files = .ok store
      ∧ (∀ file ∈ files, FileStore.isFile store file.1 = true)
      ∧ (∀ before file after, files = before ++ file :: after →
          (∀ later ∈ after, later.1 ≠ file.1) → FileStore.read store file.1 = .ok file.2)
      ∧ (∀ file ∈ files, ∀ q : Path, q.OnWayTo file.1 → FileStore.present store q = true)
      ∧ (∀ k, k ∈ store.entries.keys
          ↔ k = "" ∨ ∃ file ∈ files, ∃ q : Path, q.OnWayTo file.1 ∧ k = key q)
      ∧ ∀ k ∈ store.entries.keys, (∀ file ∈ files, key file.1 ≠ k) →
          store.entries.get? k = some .directory := by
  obtain ⟨store, hstore, hpopulated⟩ := ofFiles_populated hfiles
  have hkey := hpopulated.key_mem_keys fun file hfile => (hfiles file hfile).1
  refine ⟨store, hstore, fun file hfile => ?_, ?_, fun file hfile q hq => ?_,
    hpopulated.mem_keys, fun k hk hnone => ?_⟩
  · cases hlast : lastContent? (key file.1) files with
    | none => exact absurd rfl (lastContent?_eq_none_iff.1 hlast file hfile)
    | some content =>
        have hentry := hpopulated.entry _ (hkey file hfile)
        rw [hlast] at hentry
        exact isFile_iff.2 ⟨_, hentry⟩
  · rintro before file after rfl hlater
    have hmem : file ∈ before ++ file :: after := by simp
    have hafter : lastContent? (key file.1) after = none := by
      refine lastContent?_eq_none_iff.2 fun later hmem' hsame => hlater later hmem' ?_
      exact key_injective (hfiles later (by simp [hmem'])).1 (hfiles file hmem).1 hsame
    have hlast : lastContent? (key file.1) (before ++ file :: after) = some file.2 := by
      have happend := lastContent?_append (key file.1) (before ++ [file]) after
      rw [hafter, lastContent?_concat, if_pos rfl] at happend
      simpa using happend
    have hentry := hpopulated.entry _ (hkey file hmem)
    rw [hlast] at hentry
    exact read_eq_ok_iff.2 hentry
  · exact present_iff.2 (.inr ((hpopulated.mem_keys _).2 (.inr ⟨file, hfile, q, hq, rfl⟩)))
  · rw [hpopulated.entry k hk, lastContent?_eq_none_iff.2 hnone]
    rfl

/-- A file that comes again, with one of the directories on the way to it given as a file. -/
def nestedFiles : List (Path × String) :=
  [(⟨"/a/b/c.js"⟩, "x"), (⟨"/a/b"⟩, "y"), (⟨"/a/b/c.js"⟩, "z")]

/-- The directory on the way becomes a file, and the file in it is written once more. -/
theorem ofFiles_populates_nested :
    (∀ file ∈ nestedFiles, IsCanonical file.1 ∧ file.1 ≠ ⟨"/"⟩)
      ∧ ∃ store, ofFiles nestedFiles = .ok store
        ∧ FileStore.read store ⟨"/a/b/c.js"⟩ = .ok "z" ∧ FileStore.read store ⟨"/a/b"⟩ = .ok "y"
        ∧ FileStore.present store ⟨"/"⟩ = true ∧ "/a" ∈ store.entries.keys
        ∧ store.entries.get? "/a" = some .directory := by
  have hfiles : ∀ file ∈ nestedFiles, IsCanonical file.1 ∧ file.1 ≠ ⟨"/"⟩ := by
    simp only [nestedFiles, List.forall_mem_cons, Path.isCanonical_iff]
    decide +kernel
  obtain ⟨store, hstore, -, hread, hpresent, hkeys, hdirectory⟩ := ofFiles_populates hfiles
  have hway : (⟨"/a"⟩ : Path).OnWayTo ⟨"/a/b"⟩ :=
    ⟨[.name "a"], by decide +kernel, by decide +kernel⟩
  have hroot : (⟨"/"⟩ : Path).OnWayTo ⟨"/a/b"⟩ := ⟨[], by decide +kernel, by decide +kernel⟩
  have hsecond : (⟨"/a/b"⟩, "y") ∈ nestedFiles := by simp [nestedFiles]
  have hkey : "/a" ∈ store.entries.keys :=
    (hkeys "/a").2 (.inr ⟨(⟨"/a/b"⟩, "y"), hsecond, ⟨"/a"⟩, hway, by decide +kernel⟩)
  refine ⟨hfiles, store, hstore, ?_, ?_, ?_, hkey, ?_⟩
  · exact hread [(⟨"/a/b/c.js"⟩, "x"), (⟨"/a/b"⟩, "y")] (⟨"/a/b/c.js"⟩, "z") [] rfl (by simp)
  · exact hread [(⟨"/a/b/c.js"⟩, "x")] (⟨"/a/b"⟩, "y") [(⟨"/a/b/c.js"⟩, "z")] rfl
      (by decide +kernel)
  · exact hpresent (⟨"/a/b"⟩, "y") hsecond ⟨"/"⟩ hroot
  · exact hdirectory "/a" hkey (by decide +kernel)

end FlatStore

end ModuleBundler
