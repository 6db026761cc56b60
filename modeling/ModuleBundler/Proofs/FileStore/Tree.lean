import ModuleBundler.FileStore.Flat
import ModuleBundler.FileStore.Tree
import ModuleBundler.Proofs.Path.Inside

/-!
# Directory trees on canonical paths

**Entries.**  What stands in a tree behind a list of names is a file with its bytes or a directory
(`TreeNode.entryAt?`).  Putting a file or an empty directory into a directory where no directory
stands changes one entry and no other (`entryAt?_put`).

**Usable paths** have no NUL, and neither they nor their segments have too many bytes
(`DirectoryTree.Usable`).

**Operations.**  On a canonical path, each operation is told by entries: a node is found where it
stands, if the path is usable (`find_rooted_iff`); a directory is created, or a file written, below
a directory and where nothing or no directory stands (`createDirectory_rooted_iff`,
`write_rooted_iff`).
-/

namespace ModuleBundler

open ModuleBundler.Path (IsName rooted)

namespace TreeNode

/-- What a node is, told without what a directory holds. -/
def entry : TreeNode → FlatEntry
  | .file bytes => .file bytes
  | .directory _ => .directory

/-- **What stands behind a list of names.** -/
def entryAt? (root : TreeNode) (names : List String) : Option FlatEntry :=
  (root.at? names).map entry

lemma child?_writeEntry (name other : String) (node : TreeNode)
    (entries : List (String × TreeNode)) :
    child? other (OrderedMap.writeEntry name node entries)
      = if name = other then some node else child? other entries := by
  induction entries with
  | nil => rfl
  | cons e rest ih =>
      obtain ⟨n, inner⟩ := e
      rw [OrderedMap.writeEntry]
      by_cases hn : n = name
      · subst hn
        rw [if_pos rfl, child?, child?]
        split <;> rfl
      · rw [if_neg hn, child?, child?, ih]
        by_cases ho : n = other
        · rw [if_pos ho, if_pos ho, if_neg fun h => hn (ho.trans h.symm)]
        · rw [if_neg ho, if_neg ho]

@[simp] lemma at?_nil (node : TreeNode) : node.at? [] = some node := by
  cases node <;> rfl

lemma at?_cons (entries : List (String × TreeNode)) (name : String) (rest : List String) :
    (directory entries).at? (name :: rest) = (child? name entries).bind (·.at? rest) := by
  rw [at?]
  cases child? name entries <;> rfl

lemma at?_append (node : TreeNode) (names rest : List String) :
    node.at? (names ++ rest) = (node.at? names).bind (·.at? rest) := by
  induction names generalizing node with
  | nil => simp
  | cons name names ih =>
      cases node with
      | file bytes => rfl
      | directory entries =>
          rw [List.cons_append, at?_cons, at?_cons, Option.bind_assoc]
          exact congrArg _ (funext ih)

/-- What stands one name further in. -/
lemma at?_snoc_iff {root node : TreeNode} {names : List String} {n : String} :
    root.at? (names ++ [n]) = some node
      ↔ ∃ entries, root.at? names = some (.directory entries) ∧ child? n entries = some node := by
  rw [at?_append, Option.bind_eq_some_iff]
  constructor
  · rintro ⟨inner, hinner, hnode⟩
    cases inner with
    | file bytes => cases hnode
    | directory entries =>
        rw [at?_cons] at hnode
        exact ⟨entries, hinner, by simpa using hnode⟩
  · rintro ⟨entries, hentries, hnode⟩
    exact ⟨_, hentries, by rw [at?_cons, hnode]; simp⟩

lemma entryAt?_eq_none_iff {root : TreeNode} {names : List String} :
    root.entryAt? names = none ↔ root.at? names = none :=
  Option.map_eq_none_iff

lemma entryAt?_eq_directory_iff {root : TreeNode} {names : List String} :
    root.entryAt? names = some .directory
      ↔ ∃ entries, root.at? names = some (.directory entries) := by
  rw [entryAt?, Option.map_eq_some_iff]
  constructor
  · rintro ⟨node, hnode, hentry⟩
    cases node with
    | file bytes => cases hentry
    | directory entries => exact ⟨entries, hnode⟩
  · rintro ⟨entries, hentries⟩
    exact ⟨_, hentries, rfl⟩

/-! ## Putting a node into a directory -/

section Put

variable {root leaf : TreeNode} {before : List String} {n : String}
  {entries : List (String × TreeNode)}

/-- To put a node further down is to put it into the child on the way. -/
lemma put_cons {name : String} {inner : TreeNode} (hinner : child? name entries = some inner) :
    put leaf (name :: before ++ [n]) (.directory entries)
      = .directory (OrderedMap.writeEntry name (put leaf (before ++ [n]) inner) entries) := by
  rw [List.cons_append, put, hinner, Option.getD_some]

/-- At and below the place of the new node, the new node stands. -/
lemma at?_put_below (h : root.at? before = some (.directory entries)) (rest : List String) :
    (put leaf (before ++ [n]) root).at? (before ++ [n] ++ rest) = leaf.at? rest := by
  induction before generalizing root with
  | nil =>
      cases h
      change (directory (OrderedMap.writeEntry n leaf entries)).at? (n :: rest) = _
      rw [at?_cons, child?_writeEntry, if_pos rfl, Option.bind_some]
  | cons name before ih =>
      cases root with
      | file bytes => cases h
      | directory known =>
          rw [at?_cons, Option.bind_eq_some_iff] at h
          obtain ⟨inner, hinner, h⟩ := h
          rw [put_cons hinner, List.cons_append, List.cons_append, at?_cons, child?_writeEntry,
            if_pos rfl, Option.bind_some]
          exact ih h

/-- Everywhere else the entries stay. -/
lemma entryAt?_put_apart (h : root.at? before = some (.directory entries)) {names : List String}
    (hapart : ¬ before ++ [n] <+: names) :
    (put leaf (before ++ [n]) root).entryAt? names = root.entryAt? names := by
  induction before generalizing root names with
  | nil =>
      cases h
      change (directory (OrderedMap.writeEntry n leaf entries)).entryAt? names = _
      cases names with
      | nil => rfl
      | cons name rest =>
          have hne : n ≠ name := fun e => hapart (e ▸ ⟨rest, rfl⟩)
          rw [entryAt?, entryAt?, at?_cons, at?_cons, child?_writeEntry, if_neg hne]
  | cons name before ih =>
      cases root with
      | file bytes => cases h
      | directory known =>
          rw [at?_cons, Option.bind_eq_some_iff] at h
          obtain ⟨inner, hinner, h⟩ := h
          rw [put_cons hinner]
          cases names with
          | nil => rfl
          | cons other rest =>
              rw [entryAt?, entryAt?, at?_cons, at?_cons, child?_writeEntry]
              by_cases hother : name = other
              · subst hother
                rw [if_pos rfl, hinner]
                exact ih h fun hrest => hapart (List.cons_prefix_cons.2 ⟨rfl, hrest⟩)
              · rw [if_neg hother]

/-- **Putting a node without entries into a directory**, where no directory stands, changes one
    entry. -/
lemma entryAt?_put (h : root.entryAt? before = some .directory)
    (hfree : root.entryAt? (before ++ [n]) ≠ some .directory)
    (hleaf : ∀ name rest, leaf.at? (name :: rest) = none) (names : List String) :
    (put leaf (before ++ [n]) root).entryAt? names
      = if before ++ [n] = names then some leaf.entry else root.entryAt? names := by
  obtain ⟨entries, hentries⟩ := entryAt?_eq_directory_iff.1 h
  -- At the place itself the new node stands; below it nothing did, and nothing does.
  by_cases hprefix : before ++ [n] <+: names
  · obtain ⟨rest, rfl⟩ := hprefix
    rw [entryAt?, at?_put_below hentries]
    cases rest with
    | nil => simp
    | cons name rest =>
        have hnothing : root.at? (before ++ [n] ++ name :: rest) = none := by
          rw [at?_append]
          cases hnode : root.at? (before ++ [n]) with
          | none => rfl
          | some node =>
              cases node with
              | file bytes => rfl
              | directory inner => exact absurd (entryAt?_eq_directory_iff.2 ⟨_, hnode⟩) hfree
        rw [if_neg (by simp), entryAt?, hnothing, hleaf]
  · have hne : before ++ [n] ≠ names := fun e => hprefix (e ▸ List.prefix_refl _)
    rw [entryAt?_put_apart hentries hprefix, if_neg hne]

end Put

end TreeNode

/-- What goes on after a step that went well. -/
lemma bind_eq_ok_iff {ε α β : Type} {x : Except ε α} {f : α → Except ε β} {b : β} :
    x >>= f = .ok b ↔ ∃ a, x = .ok a ∧ f a = .ok b := by
  cases x <;> simp [bind, Except.bind]

namespace DirectoryTree

/-- **A usable path** can be followed, if there is something to follow. -/
def Usable (p : Path) : Prop :=
  '\x00' ∉ p.text.toList ∧ p.text.utf8ByteSize ≤ pathLimit
    ∧ ∀ segment ∈ p.rawSegments, tooLong segment = false

instance (p : Path) : Decidable (Usable p) := inferInstanceAs (Decidable (_ ∧ _))

variable {tree : DirectoryTree} {names : List String} {n : String}

/-! ## Following a canonical path -/

/-- An absolute path has segments if its text holds no zero character and is not too long. -/
lemma segmentsOf_eq_ok_iff {p : Path} (habs : p.isAbsolute = true) {segments : List (List Char)} :
    segmentsOf p = .ok segments ↔ '\x00' ∉ p.text.toList ∧ p.text.utf8ByteSize ≤ pathLimit
      ∧ segments = p.rawSegments := by
  have hne : p.text.toList ≠ [] := by
    obtain ⟨rest, hrest⟩ := (Path.isAbsolute_iff p).1 habs
    simp [hrest]
  rw [segmentsOf, if_neg hne]
  split
  · next hnul => simp [hnul]
  · next hnul =>
      split
      · next hlong => simp [Nat.not_le.2 hlong]
      · next hshort => simp [hnul, Nat.not_lt.1 hshort, eq_comm]

/-- A name is no step of another kind. -/
lemma segment_ne (hn : IsName n) :
    n.toList ≠ [] ∧ n.toList ≠ ['.'] ∧ n.toList ≠ ['.', '.'] :=
  ⟨by simpa using hn.1, fun h => hn.2.1 (String.toList_inj.1 (h.trans rfl)),
    fun h => hn.2.2.1 (String.toList_inj.1 (h.trans rfl))⟩

/-- One step along a name. -/
lemma step_eq_ok_iff (hn : IsName n) {place next : List String} :
    tree.step place n.toList = .ok next ↔ tooLong n.toList = false
      ∧ (tree.root.entryAt? (place ++ [n])).isSome ∧ next = place ++ [n] := by
  obtain ⟨hempty, hdot, hup⟩ := segment_ne hn
  have hthere : (tree.root.entryAt? (place ++ [n])).isSome ↔ ∃ entries,
      tree.root.at? place = some (.directory entries) ∧ (TreeNode.child? n entries).isSome := by
    rw [TreeNode.entryAt?, Option.isSome_map, Option.isSome_iff_exists]
    constructor
    · rintro ⟨node, hnode⟩
      obtain ⟨entries, hentries, hchild⟩ := TreeNode.at?_snoc_iff.1 hnode
      exact ⟨entries, hentries, by simp [hchild]⟩
    · rintro ⟨entries, hentries, hchild⟩
      obtain ⟨node, hnode⟩ := Option.isSome_iff_exists.1 hchild
      exact ⟨node, TreeNode.at?_snoc_iff.2 ⟨entries, hentries, hnode⟩⟩
  rw [hthere, step]
  split
  · next entries hentries =>
      rw [if_neg (not_or.2 ⟨hempty, hdot⟩), if_neg hup, String.ofList_toList]
      cases hlong : tooLong n.toList with
      | true => simp
      | false =>
          rw [if_neg (by simp)]
          by_cases hchild : (TreeNode.child? n entries).isSome
          · simp only [hchild, if_true, Except.ok.injEq, true_and]
            exact ⟨fun h => ⟨⟨entries, hentries, hchild⟩, h.symm⟩, fun h => h.2.symm⟩
          · simp only [hchild]
            refine iff_of_false (fun h => by cases h) ?_
            rintro ⟨-, ⟨entries', hentries', hchild'⟩, -⟩
            rw [hentries] at hentries'
            cases hentries'
            exact hchild hchild'
  · next hnone =>
      constructor
      · intro h
        cases h
      · rintro ⟨-, ⟨entries, hentries, -⟩, -⟩
        exact absurd hentries (hnone entries)

/-- What stands behind a list of names stands behind a way that is there. -/
lemma isSome_entryAt?_of_append {root : TreeNode} {rest : List String}
    (h : (root.entryAt? (names ++ rest)).isSome) : (root.entryAt? names).isSome := by
  rw [TreeNode.entryAt?, Option.isSome_map, TreeNode.at?_append] at h
  rw [TreeNode.entryAt?, Option.isSome_map]
  cases hnode : root.at? names with
  | none =>
      rw [hnode] at h
      cases h
  | some node => rfl

/-- Following names leads to where they say, if something is there. -/
lemma foldlM_step_eq_ok_iff (h : ∀ n ∈ names, IsName n) {place target : List String}
    (hplace : (tree.root.entryAt? place).isSome) :
    (names.map String.toList).foldlM tree.step place = .ok target
      ↔ (∀ n ∈ names, tooLong n.toList = false) ∧ (tree.root.entryAt? (place ++ names)).isSome
        ∧ target = place ++ names := by
  induction names generalizing place with
  | nil =>
      change (Except.ok place : Except FileError (List String)) = .ok target ↔ _
      rw [Except.ok.injEq, List.append_nil]
      exact ⟨fun h => ⟨by simp, hplace, h.symm⟩, fun h => h.2.2.symm⟩
  | cons n rest ih =>
      have hrest : ∀ m ∈ rest, IsName m := fun m hm => h m (by simp [hm])
      have happend : place ++ n :: rest = place ++ [n] ++ rest := by simp
      rw [List.map_cons, List.foldlM_cons, List.forall_mem_cons, happend]
      cases hstep : tree.step place n.toList with
      | ok next =>
          obtain ⟨hshort, hthere, rfl⟩ := (step_eq_ok_iff (h n (by simp))).1 hstep
          change (rest.map String.toList).foldlM tree.step (place ++ [n]) = .ok target ↔ _
          rw [ih hrest hthere]
          simp [hshort]
      | error cause =>
          refine iff_of_false (fun h => by cases h) ?_
          rintro ⟨⟨hshort, -⟩, hthere, -⟩
          have hok := (step_eq_ok_iff (h n (by simp))).2
            ⟨hshort, isSome_entryAt?_of_append hthere, rfl⟩
          rw [hstep] at hok
          cases hok

lemma step_empty (hroot : tree.root.entryAt? [] = some .directory) :
    tree.step [] [] = .ok [] := by
  obtain ⟨entries, hentries⟩ := TreeNode.entryAt?_eq_directory_iff.1 hroot
  rw [step, hentries]
  rfl

/-- Behind the separator at the front, a path goes on along its names. -/
lemma followSegments_names (hroot : tree.root.entryAt? [] = some .directory)
    (h : ∀ n ∈ names, IsName n) {target : List String} :
    tree.followSegments ([] :: names.map String.toList) = .ok target
      ↔ (∀ n ∈ names, tooLong n.toList = false) ∧ (tree.root.entryAt? names).isSome
        ∧ target = names := by
  rw [followSegments, List.foldlM_cons, step_empty hroot]
  exact foldlM_step_eq_ok_iff h (by simp [hroot])

lemma rawSegments_root : (rooted []).rawSegments = [[], []] := by
  decide +kernel

/-- A canonical path ends where its names lead. -/
lemma followSegments_rooted (hroot : tree.root.entryAt? [] = some .directory)
    (h : ∀ n ∈ names, IsName n) {target : List String} :
    tree.followSegments (rooted names).rawSegments = .ok target
      ↔ (∀ n ∈ names, tooLong n.toList = false) ∧ (tree.root.entryAt? names).isSome
        ∧ target = names := by
  rcases names.eq_nil_or_concat' with rfl | ⟨before, n, rfl⟩
  · rw [rawSegments_root, followSegments, List.foldlM_cons, step_empty hroot]
    exact followSegments_names hroot h
  · rw [Path.rawSegments_rooted h (by simp)]
    exact followSegments_names hroot h

/-- **When a path in normal form is usable.** -/
lemma usable_rooted_iff (h : ∀ n ∈ names, IsName n) :
    Usable (rooted names) ↔ '\x00' ∉ (rooted names).text.toList
      ∧ (rooted names).text.utf8ByteSize ≤ pathLimit ∧ ∀ n ∈ names, tooLong n.toList = false := by
  have hempty : tooLong [] = false := by decide
  rw [Usable]
  refine and_congr_right fun _ => and_congr_right fun _ => ?_
  rcases names.eq_nil_or_concat' with rfl | ⟨before, n, rfl⟩
  · rw [rawSegments_root]
    simp [hempty]
  · rw [Path.rawSegments_rooted h (by simp), List.forall_mem_cons, List.forall_mem_map]
    simp [hempty]

/-- **What is found** on a canonical path is what stands behind its names. -/
theorem find_rooted_iff (hroot : tree.root.entryAt? [] = some .directory)
    (h : ∀ n ∈ names, IsName n) {node : TreeNode} :
    tree.find (rooted names) = .ok node
      ↔ Usable (rooted names) ∧ tree.root.at? names = some node := by
  have husable := usable_rooted_iff h
  simp only [find, follow, bind_eq_ok_iff, segmentsOf_eq_ok_iff (Path.isAbsolute_rooted names)]
  constructor
  · rintro ⟨target, ⟨segments, ⟨hnul, hsize, rfl⟩, htarget⟩, hnode⟩
    obtain ⟨hshort, -, rfl⟩ := (followSegments_rooted hroot h).1 htarget
    refine ⟨husable.2 ⟨hnul, hsize, hshort⟩, ?_⟩
    split at hnode
    · next inner hinner =>
        cases hnode
        exact hinner
    · cases hnode
  · rintro ⟨hpath, hnode⟩
    obtain ⟨hnul, hsize, hshort⟩ := husable.1 hpath
    refine ⟨names, ⟨_, ⟨hnul, hsize, rfl⟩, ?_⟩, by rw [hnode]⟩
    exact (followSegments_rooted hroot h).2 ⟨hshort, by simp [TreeNode.entryAt?, hnode], rfl⟩

lemma isFile_iff {p : Path} : tree.isFile p = true ↔ ∃ bytes, tree.find p = .ok (.file bytes) := by
  rw [isFile]
  split
  · next bytes h => exact iff_of_true rfl ⟨bytes, h⟩
  · next h =>
      refine iff_of_false Bool.false_ne_true ?_
      rintro ⟨bytes, hbytes⟩
      exact h bytes hbytes

lemma present_iff {p : Path} : tree.present p = true ↔ ∃ node, tree.find p = .ok node := by
  rw [present]
  cases tree.find p with
  | ok node => simp
  | error cause => simp

/-! ## Creating and writing -/

lemma namesEntry_name (hn : IsName n) : namesEntry n.toList = true := by
  obtain ⟨hempty, hdot, hup⟩ := segment_ne hn
  simp [namesEntry, hempty, hdot, hup]

/-- A path that ends in a name has no separators at its end. -/
lemma dropTrailingEmpty_rooted (h : ∀ m ∈ names ++ [n], IsName m) :
    dropTrailingEmpty (rooted (names ++ [n])).rawSegments
      = (rooted (names ++ [n])).rawSegments := by
  have hn : n.toList ≠ [] := by simpa using (h n (by simp)).1
  rw [Path.rawSegments_rooted h (by simp), dropTrailingEmpty]
  simp [hn]

/-- **Where something new would go**: behind the names before the last one, if they lead to a
    directory. -/
lemma parentAndLast_rooted (hroot : tree.root.entryAt? [] = some .directory)
    (h : ∀ m ∈ names ++ [n], IsName m) {place : List String} {last : List Char} :
    tree.parentAndLast (rooted (names ++ [n])).rawSegments = .ok (place, last)
      ↔ (∀ m ∈ names, tooLong m.toList = false)
        ∧ tree.root.entryAt? names = some .directory ∧ place = names ∧ last = n.toList := by
  have hnames : ∀ m ∈ names, IsName m := fun m hm => h m (by simp [hm])
  have hsegments : (rooted (names ++ [n])).rawSegments
      = ([] :: names.map String.toList) ++ [n.toList] := by
    rw [Path.rawSegments_rooted h (by simp)]
    simp
  rw [hsegments, parentAndLast, List.dropLast_concat, List.getLast?_concat, Option.getD_some,
    bind_eq_ok_iff]
  constructor
  · rintro ⟨reached, hreached, hlast⟩
    obtain ⟨hshort, -, rfl⟩ := (followSegments_names hroot hnames).1 hreached
    split at hlast
    · next entries hentries =>
        cases hlast
        exact ⟨hshort, TreeNode.entryAt?_eq_directory_iff.2 ⟨entries, hentries⟩, rfl, rfl⟩
    · cases hlast
  · rintro ⟨hshort, hdirectory, rfl, rfl⟩
    obtain ⟨entries, hentries⟩ := TreeNode.entryAt?_eq_directory_iff.1 hdirectory
    refine ⟨place, (followSegments_names hroot hnames).2 ⟨hshort, by simp [hdirectory], rfl⟩, ?_⟩
    rw [hentries]

/-- **Both ways of making an entry** look for its place first. -/
lemma prepare_eq_ok_iff (hroot : tree.root.entryAt? [] = some .directory)
    (h : ∀ m ∈ names ++ [n], IsName m)
    {make : List (List Char) → List String × List Char → Except FileError DirectoryTree}
    {next : DirectoryTree} :
    ((do
        let segments ← segmentsOf (rooted (names ++ [n]))
        let target ← tree.parentAndLast (dropTrailingEmpty segments)
        make segments target) = .ok next)
      ↔ '\x00' ∉ (rooted (names ++ [n])).text.toList
        ∧ (rooted (names ++ [n])).text.utf8ByteSize ≤ pathLimit
        ∧ (∀ m ∈ names, tooLong m.toList = false) ∧ tree.root.entryAt? names = some .directory
        ∧ make (rooted (names ++ [n])).rawSegments (names, n.toList) = .ok next := by
  simp only [bind_eq_ok_iff, segmentsOf_eq_ok_iff (Path.isAbsolute_rooted (names ++ [n]))]
  constructor
  · rintro ⟨segments, ⟨hnul, hsize, rfl⟩, ⟨place, last⟩, hplace, hmade⟩
    rw [dropTrailingEmpty_rooted h] at hplace
    obtain ⟨hshort, hdirectory, rfl, rfl⟩ := (parentAndLast_rooted hroot h).1 hplace
    exact ⟨hnul, hsize, hshort, hdirectory, hmade⟩
  · rintro ⟨hnul, hsize, hshort, hdirectory, hmade⟩
    refine ⟨_, ⟨hnul, hsize, rfl⟩, (names, n.toList), ?_, hmade⟩
    rw [dropTrailingEmpty_rooted h]
    exact (parentAndLast_rooted hroot h).2 ⟨hshort, hdirectory, rfl, rfl⟩

lemma usable_snoc_iff (h : ∀ m ∈ names ++ [n], IsName m) :
    Usable (rooted (names ++ [n])) ↔ '\x00' ∉ (rooted (names ++ [n])).text.toList
      ∧ (rooted (names ++ [n])).text.utf8ByteSize ≤ pathLimit
      ∧ (∀ m ∈ names, tooLong m.toList = false) ∧ tooLong n.toList = false := by
  rw [usable_rooted_iff h, List.forall_mem_append, List.forall_mem_singleton]

/-- **Which directories can be created**, on a canonical path. -/
theorem createDirectory_rooted_iff (hroot : tree.root.entryAt? [] = some .directory)
    (h : ∀ m ∈ names ++ [n], IsName m) {next : DirectoryTree} :
    tree.createDirectory (rooted (names ++ [n])) = .ok next
      ↔ Usable (rooted (names ++ [n])) ∧ tree.root.entryAt? names = some .directory
        ∧ tree.root.entryAt? (names ++ [n]) = none
        ∧ next = ⟨.put (.directory []) (names ++ [n]) tree.root⟩ := by
  rw [createDirectory, prepare_eq_ok_iff hroot h, usable_snoc_iff h]
  simp only [String.ofList_toList, namesEntry_name (h n (by simp)), TreeNode.entryAt?_eq_none_iff]
  rw [if_neg (by simp)]
  constructor
  · rintro ⟨hnul, hsize, hshort, hdirectory, hmade⟩
    split at hmade
    · cases hmade
    · next hlast =>
        split at hmade
        · cases hmade
        · next hfree =>
            cases hmade
            exact ⟨⟨hnul, hsize, hshort, by simpa using hlast⟩, hdirectory, by simpa using hfree,
              rfl⟩
  · rintro ⟨⟨hnul, hsize, hshort, hlast⟩, hdirectory, hfree, rfl⟩
    refine ⟨hnul, hsize, hshort, hdirectory, ?_⟩
    rw [if_neg (by simp [hlast]), if_neg (by simp [hfree])]

/-- **Which files can be written**, on a canonical path. -/
theorem write_rooted_iff (hroot : tree.root.entryAt? [] = some .directory)
    (h : ∀ m ∈ names ++ [n], IsName m) {bytes : ByteArray} {next : DirectoryTree} :
    tree.write (rooted (names ++ [n])) bytes = .ok next
      ↔ Usable (rooted (names ++ [n])) ∧ tree.root.entryAt? names = some .directory
        ∧ tree.root.entryAt? (names ++ [n]) ≠ some .directory
        ∧ next = ⟨.put (.file bytes) (names ++ [n]) tree.root⟩ := by
  have hlength : (dropTrailingEmpty (rooted (names ++ [n])).rawSegments).length
      = (rooted (names ++ [n])).rawSegments.length := by
    rw [dropTrailingEmpty_rooted h]
  rw [write, prepare_eq_ok_iff hroot h, usable_snoc_iff h]
  simp only [String.ofList_toList, namesEntry_name (h n (by simp)), hlength]
  rw [if_neg (by simp)]
  constructor
  · rintro ⟨hnul, hsize, hshort, hdirectory, hmade⟩
    split at hmade
    · cases hmade
    · next hlast =>
        split at hmade
        · cases hmade
        · next hfree =>
            cases hmade
            refine ⟨⟨hnul, hsize, hshort, by simpa using hlast⟩, hdirectory, fun h => ?_, rfl⟩
            obtain ⟨entries, hentries⟩ := TreeNode.entryAt?_eq_directory_iff.1 h
            exact hfree entries hentries
  · rintro ⟨⟨hnul, hsize, hshort, hlast⟩, hdirectory, hfree, rfl⟩
    refine ⟨hnul, hsize, hshort, hdirectory, ?_⟩
    rw [if_neg (by simp [hlast])]
    split
    · next entries hentries =>
        exact absurd (TreeNode.entryAt?_eq_directory_iff.2 ⟨entries, hentries⟩) hfree
    · rfl

/-- Nothing is made at the root, where no name is left. -/
lemma parentAndLast_root {place : List String} {last : List Char}
    (h : tree.parentAndLast (dropTrailingEmpty [[], []]) = .ok (place, last)) :
    namesEntry last = false := by
  obtain ⟨reached, -, hlast⟩ := bind_eq_ok_iff.1 h
  split at hlast
  · cases hlast
    rfl
  · cases hlast

lemma createDirectory_root (tree next : DirectoryTree) :
    tree.createDirectory (rooted []) ≠ .ok next := by
  have hsegments : segmentsOf (rooted []) = .ok [[], []] := by decide +kernel
  intro h
  simp only [createDirectory, bind_eq_ok_iff, hsegments, Prod.exists] at h
  obtain ⟨segments, hsame, place, last, hplace, h⟩ := h
  cases hsame
  simp only [parentAndLast_root hplace] at h
  cases h

lemma write_root (tree next : DirectoryTree) (bytes : ByteArray) :
    tree.write (rooted []) bytes ≠ .ok next := by
  have hsegments : segmentsOf (rooted []) = .ok [[], []] := by decide +kernel
  intro h
  simp only [write, bind_eq_ok_iff, hsegments, Prod.exists] at h
  obtain ⟨segments, hsame, place, last, hplace, h⟩ := h
  cases hsame
  simp only [parentAndLast_root hplace] at h
  cases h

end DirectoryTree

end ModuleBundler
