import ModuleBundler.FileStore.Flat
import ModuleBundler.Graph.Resolver
import ModuleBundler.Proofs.Path.NormalForm

/-!
# Where specifiers lead

With an absolute working directory every specifier leads to a canonical path
(`isCanonical_resolveId`): joining gives an absolute path, which is brought into normal form, and
the script ending only makes the last name longer.

**Resolving again.**  A resolved path is a file whenever one of its two spellings is, so there is no
reason to take the other spelling the next time (`resolve_resolve`).  As a specifier, a canonical
path is read from nowhere.  So the id of a module stands for that module, wherever it is written
(`resolveId_stands_for_itself`).

A flat store keeps a file under the text of its path without separators at the end.  A canonical
path other than the root ends in a name, so canonical paths with one key are one path
(`key_injective`).
-/

namespace ModuleBundler

namespace Path

lemma isAbsolute_iff (p : Path) : p.isAbsolute = true ↔ ∃ rest, p.text.toList = '/' :: rest := by
  rw [isAbsolute, beq_iff_eq]
  cases p.text.toList with
  | nil => simp
  | cons c rest => simp

/-- What is read from an absolute path is absolute. -/
lemma isAbsolute_join {p : Path} (h : p.isAbsolute = true) (q : Path) :
    (p.join q).isAbsolute = true := by
  obtain ⟨rest, hrest⟩ := (isAbsolute_iff p).1 h
  unfold join
  split
  · assumption
  · rw [if_neg (by simp [hrest])]
    split <;> simp [isAbsolute_iff, hrest]

lemma text_rooted (names : List String) : (rooted names).text = "/" ++ "/".intercalate names := by
  have hnames : (names.map Component.name).map Component.text = names := by
    rw [List.map_map]
    exact List.map_id names
  rw [rooted, stepsText, hnames]

/-- What stands before the last name of a canonical path. -/
def lead (names : List String) : String :=
  if names = [] then "/" else (rooted names).text ++ "/"

lemma text_rooted_snoc (names : List String) (n : String) :
    (rooted (names ++ [n])).text = lead names ++ n := by
  rw [lead, text_rooted]
  split
  · next h => rw [h, List.nil_append, String.intercalate_singleton]
  · next h =>
      rw [String.intercalate_append_of_ne_nil h (by simp), String.intercalate_singleton,
        text_rooted]
      simp only [String.append_assoc]

end Path

open ModuleBundler.Path (IsCanonical IsName rooted)

namespace Resolver

/-- A name with the script ending is a name, and so is the ending by itself. -/
lemma isName_append_ending {n : String} (hn : n = "" ∨ IsName n) : IsName (n ++ scriptEnding) := by
  have hlist : (n ++ scriptEnding).toList = n.toList ++ ['.', 'j', 's'] := by
    rw [String.toList_append]
    rfl
  have hlong : ∀ m : String, m.toList.length < 3 → n ++ scriptEnding ≠ m := by
    intro m hm e
    rw [← e, hlist, List.length_append] at hm
    exact absurd hm (by simp)
  refine ⟨hlong _ (by decide), hlong _ (by decide), hlong _ (by decide), ?_⟩
  rw [hlist]
  rcases hn with rfl | hn
  · decide
  · simpa using hn.2.2.2

/-- The script ending makes the last name longer. -/
lemma withEnding_rooted_snoc (before : List String) (n : String) :
    withEnding (rooted (before ++ [n])) = rooted (before ++ [n ++ scriptEnding]) := by
  have htext : (withEnding (rooted (before ++ [n]))).text
      = (rooted (before ++ [n ++ scriptEnding])).text := by
    rw [withEnding, Path.text_rooted_snoc, Path.text_rooted_snoc, String.append_assoc]
  exact congrArg Path.mk htext

lemma isCanonical_withEnding {p : Path} (h : IsCanonical p) : IsCanonical (withEnding p) := by
  obtain ⟨names, hnames, rfl⟩ := h
  rcases names.eq_nil_or_concat' with rfl | ⟨before, n, rfl⟩
  · refine ⟨[scriptEnding], ?_, rfl⟩
    intro m hm
    cases List.mem_singleton.1 hm
    exact isName_append_ending (n := "") (.inl rfl)
  · refine ⟨before ++ [n ++ scriptEnding], ?_, withEnding_rooted_snoc before n⟩
    intro m hm
    rcases List.mem_append.1 hm with hm | hm
    · exact hnames m (by simp [hm])
    · rw [List.mem_singleton.1 hm]
      exact isName_append_ending (.inr (hnames n (by simp)))

variable {σ : Type} (r : Resolver σ)

lemma isCanonical_join (habs : r.cwd.isAbsolute = true) (directory : Path) (specifier : String) :
    IsCanonical (r.join directory specifier) := by
  rw [join]
  split
  · next h => exact Path.isCanonical_normal h
  · exact Path.isCanonical_normal (Path.isAbsolute_join habs _)

/-- **Every specifier leads to a canonical path.** -/
theorem isCanonical_resolveId [FileStore σ] (habs : r.cwd.isAbsolute = true)
    (importer : Option ModuleId) (specifier : String) :
    IsCanonical (r.resolveId importer specifier) := by
  have hjoin := isCanonical_join r habs ((importer.map ModuleId.directory).getD r.cwd) specifier
  rw [resolveId, resolve]
  split
  · exact hjoin
  · split
    · exact isCanonical_withEnding hjoin
    · exact hjoin

/-! ## Resolving again -/

/-- A canonical path is read from nowhere. -/
lemma join_text_of_canonical (directory : Path) {p : Path} (h : IsCanonical p) :
    r.join directory p.text = p := by
  obtain ⟨habsolute, hnormal⟩ := Path.isCanonical_iff.1 h
  have hjoined : directory.join ⟨p.text⟩ = p := if_pos habsolute
  rw [join, hjoined, if_pos habsolute, hnormal]

section Again

variable [FileStore σ]

/-- **What a path resolves to** is itself, or itself with the ending. -/
lemma resolve_eq_or (p : Path) : r.resolve p = p ∨ r.resolve p = withEnding p := by
  rw [resolve]
  split_ifs
  · exact .inl rfl
  · exact .inr rfl
  · exact .inl rfl

/-- A path that is a file in either spelling resolves to a file. -/
lemma isFile_resolve {p : Path} (h : FileStore.isFile r.store p = true
      ∨ FileStore.isFile r.store (withEnding p) = true) :
    FileStore.isFile r.store (r.resolve p) = true := by
  rw [resolve]
  split_ifs with hplain hending
  · exact hplain
  · exact hending
  · exact absurd h (by simp [hplain, hending])

lemma resolve_of_isFile {p : Path} (h : FileStore.isFile r.store p = true) : r.resolve p = p := by
  rw [resolve, if_pos h]

/-- **A resolved path resolves to itself.** -/
lemma resolve_resolve (p : Path) : r.resolve (r.resolve p) = r.resolve p := by
  by_cases h : FileStore.isFile r.store p = true ∨ FileStore.isFile r.store (withEnding p) = true
  · exact r.resolve_of_isFile (r.isFile_resolve h)
  -- A path that is no file in either spelling was passed on as it is.
  · have hsame : r.resolve p = p := by
      rw [not_or] at h
      rw [resolve, if_neg h.1, if_neg h.2]
    rw [hsame, hsame]

/-- **The id of a module stands for itself.**  With an absolute working directory every specifier,
    whoever uses it, leads to an id that is canonical, that is the joined path or this path with the
    script ending, and that is a file whenever one of the two is.  Used as a specifier in any
    module, or as the entry, the id leads to itself. -/
theorem resolveId_stands_for_itself (habsolute : r.cwd.isAbsolute = true)
    (importer : Option ModuleId) (specifier : String) :
    let joined := r.join ((importer.map ModuleId.directory).getD r.cwd) specifier
    let id := r.resolveId importer specifier
    IsCanonical id
      ∧ (id = joined ∨ id = withEnding joined)
      ∧ (FileStore.isFile r.store joined = true
            ∨ FileStore.isFile r.store (withEnding joined) = true →
          FileStore.isFile r.store id = true)
      ∧ ∀ importer', r.resolveId importer' id.text = id := by
  intro joined id
  have hcanonical : IsCanonical id := r.isCanonical_resolveId habsolute importer specifier
  refine ⟨hcanonical, r.resolve_eq_or joined, r.isFile_resolve, fun importer' => ?_⟩
  rw [resolveId, r.join_text_of_canonical _ hcanonical]
  exact r.resolve_resolve joined

/-- A resolver whose working directory is not in normal form, and a store with one file. -/
def windingResolver : Resolver FlatStore :=
  ⟨⟨"/p/x/.."⟩, ⟨.ofList [("", .directory), ("/p", .directory), ("/p/b.js", .file "".toUTF8)]⟩⟩

/-- The root has no directory, so what is used there is read from the working directory. -/
theorem resolveId_stands_for_itself_winding :
    windingResolver.cwd.isAbsolute = true
      ∧ windingResolver.resolveId (some ⟨"/"⟩) "..//../../p/./b/" = ⟨"/p/b.js"⟩
      ∧ windingResolver.resolveId (some ⟨"/q/c.js"⟩) "/p/b.js" = ⟨"/p/b.js"⟩ := by
  have habsolute : windingResolver.cwd.isAbsolute = true := by decide +kernel
  have hid : windingResolver.resolveId (some ⟨"/"⟩) "..//../../p/./b/" = ⟨"/p/b.js"⟩ := by
    decide +kernel
  have hagain := (windingResolver.resolveId_stands_for_itself habsolute (some ⟨"/"⟩)
    "..//../../p/./b/").2.2.2 (some ⟨"/q/c.js"⟩)
  rw [hid] at hagain
  exact ⟨habsolute, hid, hagain⟩

end Again

end Resolver

namespace FlatStore

/-- A text that ends in something without a separator is its own key. -/
lemma key_append {n : String} (hne : n ≠ "") (hslash : '/' ∉ n.toList) (front : String) :
    key ⟨front ++ n⟩ = front ++ n := by
  obtain ⟨start, c, hc⟩ : ∃ start c, n.toList = start ++ [c] := by
    have hnil : n.toList ≠ [] := by simpa using hne
    exact ⟨_, _, (List.dropLast_append_getLast hnil).symm⟩
  have hlast : c ≠ '/' := by
    rintro rfl
    exact hslash (by simp [hc])
  rw [key, String.toList_append, hc, ← List.append_assoc, List.reverse_append]
  simp [hlast, ← String.toList_inj, hc]

lemma key_rooted_snoc (names : List String) {n : String} (h : IsName n) :
    key (rooted (names ++ [n])) = (rooted (names ++ [n])).text := by
  have hrooted : rooted (names ++ [n]) = ⟨Path.lead names ++ n⟩ :=
    congrArg Path.mk (Path.text_rooted_snoc names n)
  rw [hrooted, key_append h.1 h.2.2.2]

/-- **Canonical paths with one key are one path.** -/
theorem key_injective {p q : Path} (hp : IsCanonical p) (hq : IsCanonical q)
    (h : key p = key q) : p = q := by
  have hroot : ∀ names (n : String), IsName n →
      key (rooted (names ++ [n])) ≠ key (rooted []) := by
    intro names n hn e
    rw [key_rooted_snoc names hn] at e
    have hlist := congrArg String.toList e
    rw [Path.toList_rooted] at hlist
    cases hlist
  obtain ⟨names, hnames, rfl⟩ := hp
  obtain ⟨names', hnames', rfl⟩ := hq
  rcases names.eq_nil_or_concat' with rfl | ⟨names, n, rfl⟩ <;>
    rcases names'.eq_nil_or_concat' with rfl | ⟨names', n', rfl⟩
  · rfl
  · exact absurd h.symm (hroot names' n' (hnames' n' (by simp)))
  · exact absurd h (hroot names n (hnames n (by simp)))
  · rw [key_rooted_snoc names (hnames n (by simp)),
      key_rooted_snoc names' (hnames' n' (by simp))] at h
    exact congrArg Path.mk h

end FlatStore

end ModuleBundler
