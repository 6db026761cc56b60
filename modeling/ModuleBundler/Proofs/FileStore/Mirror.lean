import ModuleBundler.Proofs.FileStore.Tree
import ModuleBundler.Proofs.FileStore.Writing
import ModuleBundler.Proofs.Graph.Resolution

/-!
# When a flat store passes for a directory tree

A flat store knows nothing but keys.  Called with canonical paths only, it is to answer as a
directory tree does.

**Calls** and their replies: the answer of a probe, the text that was read, and whether a change was
made (`FileStore.perform`, `FileStore.replies`).

**Mirrors.**  A flat store mirrors a tree if under the key of each canonical path it holds what
stands in the tree behind the names of the path, and nothing stands where no path is usable
(`Mirrors`).

**Collisions.**  A flat store makes some changes that a tree refuses: it creates and writes below a
file, it writes over a directory, and it takes names that no directory can hold
(`FlatStore.Collides`).  A call that does not collide gets one reply from both and leaves mirrors
behind, and a call that collides gets two (`Mirrors.step`, `Mirrors.step_of_collides`).  So two
stores that begin empty reply alike for as long as nothing collides, and no longer
(`replies_eq_iff`).
-/

namespace ModuleBundler

open ModuleBundler.Path (IsCanonical IsName rooted)

namespace FileStore

/-- **A call** of a file store. -/
inductive Op where
  | isFile (p : Path)
  | present (p : Path)
  | read (p : Path)
  | createDirectory (p : Path)
  | write (p : Path) (bytes : ByteArray)

/-- The path that an operation is about. -/
def Op.path : Op → Path
  | .isFile p => p
  | .present p => p
  | .read p => p
  | .createDirectory p => p
  | .write p _ => p

/-- **What is replied**, without the reasons of a failure. -/
inductive Reply where
  | flag (answer : Bool)
  | text (content : Option String)
  | done (succeeded : Bool)
deriving DecidableEq, Repr

variable {σ : Type}

/-- The store after a change, or as it was if the change failed. -/
def settle (store : σ) : Except FileError σ → σ × Reply
  | .ok next => (next, .done true)
  | .error _ => (store, .done false)

/-- **Carry out a call.** -/
def perform [FileStore σ] (store : σ) : Op → σ × Reply
  | .isFile p => (store, .flag (FileStore.isFile store p))
  | .present p => (store, .flag (FileStore.present store p))
  | .read p => (store, .text (FileStore.read store p).toOption)
  | .createDirectory p => settle store (FileStore.createDirectory store p)
  | .write p bytes => settle store (FileStore.write store p bytes)

/-- The store after a row of calls. -/
def after [FileStore σ] (store : σ) (ops : List Op) : σ :=
  ops.foldl (fun store op => (perform store op).1) store

/-- **The replies to a row of calls.** -/
def replies [FileStore σ] (store : σ) : List Op → List Reply
  | [] => []
  | op :: rest => (perform store op).2 :: replies (perform store op).1 rest

end FileStore

open FileStore (Op Reply perform replies settle)

namespace FlatStore

/-- **What a flat store does although a directory tree cannot.** -/
def Collides (store : FlatStore) : Op → Prop
  | .createDirectory p => store.hasParent (key p) = true ∧ store.present p = false
      ∧ (p.parent?.any store.isFile = true ∨ ¬ DirectoryTree.Usable p)
  | .write p _ => store.hasParent (key p) = true
      ∧ (p.parent?.any store.isFile = true ∨ (store.present p = true ∧ store.isFile p = false)
        ∨ ¬ DirectoryTree.Usable p)
  | _ => False

instance (store : FlatStore) : (op : Op) → Decidable (store.Collides op)
  | .isFile _ => inferInstanceAs (Decidable False)
  | .present _ => inferInstanceAs (Decidable False)
  | .read _ => inferInstanceAs (Decidable False)
  | .createDirectory _ => inferInstanceAs (Decidable (_ ∧ _))
  | .write _ _ => inferInstanceAs (Decidable (_ ∧ _))

/-- None of the calls collides when it is made. -/
def CollisionFree (store : FlatStore) : List Op → Prop
  | [] => True
  | op :: rest => ¬ store.Collides op ∧ CollisionFree (perform store op).1 rest

instance : (store : FlatStore) → (ops : List Op) → Decidable (store.CollisionFree ops)
  | _, [] => inferInstanceAs (Decidable True)
  | store, op :: rest =>
      have := instDecidableCollisionFree (perform store op).1 rest
      inferInstanceAs (Decidable (_ ∧ _))

/-! ## Keys of canonical paths -/

lemma key_root : key (rooted []) = "" := by
  decide +kernel

/-- The parent of the key of a canonical path is the key of its parent. -/
lemma parentKey?_rooted {names : List String} {n : String} (h : ∀ m ∈ names ++ [n], IsName m) :
    parentKey? (key (rooted (names ++ [n]))) = some (key (rooted names)) := by
  have hn : IsName n := h n (by simp)
  have hlead : Path.lead names = key (rooted names) ++ "/" := by
    rcases names.eq_nil_or_concat' with rfl | ⟨before, m, rfl⟩
    · decide +kernel
    · rw [key_rooted_snoc before (h m (by simp)), Path.lead, if_neg (by simp)]
  rw [key_rooted_snoc names hn, Path.text_rooted_snoc, hlead, parentKey?_append _ hn.2.2.2]

lemma hasParent_root (store : FlatStore) : store.hasParent (key (rooted [])) = false := by
  have hnone : parentKey? (key (rooted [])) = none := by decide +kernel
  rw [hasParent, hnone]

end FlatStore

open FlatStore (key Collides CollisionFree)
open DirectoryTree (Usable)

/-- **A flat store that mirrors a tree.** -/
structure Mirrors (store : FlatStore) (tree : DirectoryTree) : Prop where
  root : tree.root.entryAt? [] = some .directory
  entries : ∀ names, (∀ n ∈ names, IsName n) →
    store.entries.get? (key (rooted names)) = tree.root.entryAt? names
  usable : ∀ names, (∀ n ∈ names, IsName n) → (tree.root.entryAt? names).isSome →
    Usable (rooted names)

namespace Mirrors

variable {store : FlatStore} {tree : DirectoryTree} {names : List String} {n : String}

/-- The empty stores mirror each other. -/
lemma empty : Mirrors FlatStore.empty DirectoryTree.empty where
  root := rfl
  entries names h := by
    have hget : FlatStore.empty.entries.get? (key (rooted names))
        = if "" = key (rooted names) then some .directory else none := OrderedMap.get?_insert ..
    rw [hget]
    cases names with
    | nil => rw [FlatStore.key_root, if_pos rfl]; rfl
    | cons n rest =>
        rw [if_neg]
        · rfl
        · intro heq
          have hroot := FlatStore.key_injective ⟨[], by simp, rfl⟩ ⟨_, h, rfl⟩
            (FlatStore.key_root.trans heq)
          cases Path.rooted_injective (by simp) h hroot
  usable names h hthere := by
    cases names with
    | nil => decide +kernel
    | cons n rest => cases hthere

/-! ## Probes -/

/-- The keys of the store are the places of the tree. -/
lemma contains_iff (h : Mirrors store tree) (hnames : ∀ n ∈ names, IsName n) :
    store.entries.contains (key (rooted names)) = true ↔ (tree.root.entryAt? names).isSome := by
  rw [← h.entries names hnames, ← Bool.not_eq_false, OrderedMap.contains_eq_false_iff,
    Option.isSome_iff_ne_none]

lemma present_iff (h : Mirrors store tree) (hnames : ∀ n ∈ names, IsName n) :
    store.present (rooted names) = true ↔ (tree.root.entryAt? names).isSome := by
  rw [FlatStore.present, Bool.or_eq_true, h.contains_iff hnames, beq_iff_eq, ← FlatStore.key_root]
  refine or_iff_right_of_imp fun heq => ?_
  rw [← h.entries names hnames, heq, h.entries [] (by simp), h.root]
  rfl

lemma isFile_iff (h : Mirrors store tree) (hnames : ∀ n ∈ names, IsName n) :
    store.isFile (rooted names) = true
      ↔ ∃ bytes, tree.root.entryAt? names = some (.file bytes) := by
  rw [FlatStore.isFile_iff, h.entries names hnames]

/-- What stands in the tree is found. -/
lemma find_iff (h : Mirrors store tree) (hnames : ∀ n ∈ names, IsName n) {node : TreeNode} :
    tree.find (rooted names) = .ok node ↔ tree.root.at? names = some node := by
  rw [DirectoryTree.find_rooted_iff h.root hnames]
  exact and_iff_right_of_imp fun hnode =>
    h.usable names hnames (by simp [TreeNode.entryAt?, hnode])

lemma isFile_eq (h : Mirrors store tree) (hnames : ∀ n ∈ names, IsName n) :
    FileStore.isFile store (rooted names) = FileStore.isFile tree (rooted names) := by
  rw [Bool.eq_iff_iff]
  refine (h.isFile_iff hnames).trans (Iff.trans ?_ DirectoryTree.isFile_iff.symm)
  refine exists_congr fun bytes => ?_
  rw [h.find_iff hnames, TreeNode.entryAt?, Option.map_eq_some_iff]
  constructor
  · rintro ⟨node, hnode, hentry⟩
    cases node with
    | file bytes => rw [hnode, FlatEntry.file.inj hentry]
    | directory entries => cases hentry
  · exact fun hnode => ⟨_, hnode, rfl⟩

lemma present_eq (h : Mirrors store tree) (hnames : ∀ n ∈ names, IsName n) :
    FileStore.present store (rooted names) = FileStore.present tree (rooted names) := by
  rw [Bool.eq_iff_iff]
  refine (h.present_iff hnames).trans (Iff.trans ?_ DirectoryTree.present_iff.symm)
  rw [TreeNode.entryAt?, Option.isSome_map, Option.isSome_iff_exists]
  exact exists_congr fun node => (h.find_iff hnames).symm

lemma read_eq (h : Mirrors store tree) (hnames : ∀ n ∈ names, IsName n) :
    (FileStore.read store (rooted names)).toOption
      = (FileStore.read tree (rooted names)).toOption := by
  have hentry := h.entries names hnames
  change (FlatStore.read store (rooted names)).toOption
    = (DirectoryTree.read tree (rooted names)).toOption
  rw [FlatStore.read, DirectoryTree.read]
  cases hfind : tree.find (rooted names) with
  | ok node =>
      rw [TreeNode.entryAt?, (h.find_iff hnames).1 hfind] at hentry
      rw [hentry]
      cases node with
      | file bytes => rfl
      | directory entries => rfl
  | error cause =>
      have hnone : tree.root.at? names = none := by
        refine Option.eq_none_iff_forall_ne_some.2 fun node hnode => ?_
        rw [(h.find_iff hnames).2 hnode] at hfind
        cases hfind
      rw [TreeNode.entryAt?, hnone] at hentry
      simp only [hentry, Option.map_none]
      rfl

/-! ## Changes -/

/-- What is made at a free place below a directory is made in both. -/
lemma insert (h : Mirrors store tree) (hnames : ∀ m ∈ names ++ [n], IsName m) {leaf : TreeNode}
    (hparent : tree.root.entryAt? names = some .directory)
    (hfree : tree.root.entryAt? (names ++ [n]) ≠ some .directory)
    (husable : Usable (rooted (names ++ [n])))
    (hleaf : ∀ name rest, leaf.at? (name :: rest) = none) :
    Mirrors ⟨store.entries.insert (key (rooted (names ++ [n]))) leaf.entry⟩
      ⟨leaf.put (names ++ [n]) tree.root⟩ where
  root := by
    rw [TreeNode.entryAt?_put hparent hfree hleaf, if_neg (by simp)]
    exact h.root
  entries other hother := by
    rw [OrderedMap.get?_insert, TreeNode.entryAt?_put hparent hfree hleaf,
      h.entries other hother]
    refine if_congr ⟨fun heq => ?_, fun heq => heq ▸ rfl⟩ rfl rfl
    exact Path.rooted_injective hnames hother
      (FlatStore.key_injective ⟨_, hnames, rfl⟩ ⟨_, hother, rfl⟩ heq)
  usable other hother hthere := by
    rw [TreeNode.entryAt?_put hparent hfree hleaf] at hthere
    split at hthere
    · next heq => exact heq ▸ husable
    · exact h.usable other hother hthere

lemma hasParent_iff (h : Mirrors store tree) (hnames : ∀ m ∈ names ++ [n], IsName m) :
    store.hasParent (key (rooted (names ++ [n]))) = true
      ↔ (tree.root.entryAt? names).isSome := by
  rw [FlatStore.hasParent, FlatStore.parentKey?_rooted hnames]
  exact h.contains_iff fun m hm => hnames m (by simp [hm])

/-- Below something that is no file, there is a directory. -/
lemma hasParent_and_iff (h : Mirrors store tree) (hnames : ∀ m ∈ names ++ [n], IsName m) :
    store.hasParent (key (rooted (names ++ [n]))) = true
        ∧ ¬ (rooted (names ++ [n])).parent?.any store.isFile = true
      ↔ tree.root.entryAt? names = some .directory := by
  rw [h.hasParent_iff hnames, Path.parent?_rooted hnames, Option.any_some,
    h.isFile_iff fun m hm => hnames m (by simp [hm])]
  cases tree.root.entryAt? names with
  | none => simp
  | some entry => cases entry <;> simp

/-- **How one change goes in a flat store and in a tree**: what the tree does, the flat store does
    as well, and it is a collision if the flat store alone does it. -/
structure Compared (flat : Except FileError FlatStore) (nested : Except FileError DirectoryTree)
    (collides : Prop) : Prop where
  mirrors : ∀ t, nested = .ok t → ∃ s, flat = .ok s ∧ Mirrors s t
  collides_iff : collides ↔ (∃ s, flat = .ok s) ∧ ¬ ∃ t, nested = .ok t

/-- **Creating a directory** goes alike in both stores, unless it collides. -/
lemma compared_createDirectory (h : Mirrors store tree) (hnames : ∀ m ∈ names ++ [n], IsName m) :
    Compared (FileStore.createDirectory store (rooted (names ++ [n])))
      (FileStore.createDirectory tree (rooted (names ++ [n])))
      (Collides store (.createDirectory (rooted (names ++ [n])))) := by
  have hparent := h.hasParent_and_iff hnames
  have hfree : store.present (rooted (names ++ [n])) = false
      ↔ tree.root.entryAt? (names ++ [n]) = none := by
    rw [← Bool.not_eq_true, h.present_iff hnames, Option.not_isSome_iff_eq_none]
  have hnested : ∀ t, FileStore.createDirectory tree (rooted (names ++ [n])) = .ok t ↔ _ :=
    fun t => DirectoryTree.createDirectory_rooted_iff h.root hnames
  have hflat : ∀ s, FileStore.createDirectory store (rooted (names ++ [n])) = .ok s
      ↔ store.hasParent (key (rooted (names ++ [n]))) = true
        ∧ tree.root.entryAt? (names ++ [n]) = none
        ∧ s = ⟨store.entries.insert (key (rooted (names ++ [n]))) .directory⟩ := fun s => by
    rw [FlatStore.createDirectory_eq_ok_iff, h.entries _ hnames]
  constructor
  · intro t ht
    obtain ⟨husable, hdirectory, hnone, rfl⟩ := (hnested t).1 ht
    have hleaf : ∀ name rest, (TreeNode.directory []).at? (name :: rest) = none := fun _ _ => rfl
    exact ⟨_, (hflat _).2 ⟨(hparent.2 hdirectory).1, hnone, rfl⟩,
      h.insert hnames hdirectory (by simp [hnone]) husable hleaf⟩
  · rw [Collides, hfree]
    constructor
    · rintro ⟨hbelow, hnone, hrefused⟩
      refine ⟨⟨_, (hflat _).2 ⟨hbelow, hnone, rfl⟩⟩, ?_⟩
      rintro ⟨t, ht⟩
      obtain ⟨husable, hdirectory, -⟩ := (hnested t).1 ht
      exact hrefused.elim (hparent.2 hdirectory).2 fun hn => hn husable
    · rintro ⟨⟨s, hs⟩, hrefused⟩
      obtain ⟨hbelow, hnone, -⟩ := (hflat s).1 hs
      refine ⟨hbelow, hnone, ?_⟩
      by_contra hall
      obtain ⟨hplain, husable⟩ := not_or.1 hall
      exact hrefused ⟨_, (hnested _).2
        ⟨not_not.1 husable, hparent.1 ⟨hbelow, hplain⟩, hnone, rfl⟩⟩

/-- **Writing** goes alike in both stores, unless it collides. -/
lemma compared_write (h : Mirrors store tree) (hnames : ∀ m ∈ names ++ [n], IsName m)
    (bytes : ByteArray) :
    Compared (FileStore.write store (rooted (names ++ [n])) bytes)
      (FileStore.write tree (rooted (names ++ [n])) bytes)
      (Collides store (.write (rooted (names ++ [n])) bytes)) := by
  have hparent := h.hasParent_and_iff hnames
  have hdirectory : store.present (rooted (names ++ [n])) = true
        ∧ store.isFile (rooted (names ++ [n])) = false
      ↔ tree.root.entryAt? (names ++ [n]) = some .directory := by
    rw [← Bool.not_eq_true, h.present_iff hnames, h.isFile_iff hnames]
    cases tree.root.entryAt? (names ++ [n]) with
    | none => simp
    | some entry => cases entry <;> simp
  have hnested : ∀ t, FileStore.write tree (rooted (names ++ [n])) bytes = .ok t ↔ _ :=
    fun t => DirectoryTree.write_rooted_iff h.root hnames
  have hflat : ∀ s, FileStore.write store (rooted (names ++ [n])) bytes = .ok s ↔ _ :=
    fun s => FlatStore.write_eq_ok_iff
  constructor
  · intro t ht
    obtain ⟨husable, hbelow, hfree, rfl⟩ := (hnested t).1 ht
    have hleaf : ∀ name rest, (TreeNode.file bytes).at? (name :: rest) = none := fun _ _ => rfl
    exact ⟨_, (hflat _).2 ⟨(hparent.2 hbelow).1, rfl⟩,
      h.insert hnames hbelow hfree husable hleaf⟩
  · rw [Collides, hdirectory]
    constructor
    · rintro ⟨hbelow, hrefused⟩
      refine ⟨⟨_, (hflat _).2 ⟨hbelow, rfl⟩⟩, ?_⟩
      rintro ⟨t, ht⟩
      obtain ⟨husable, hparent', hfree, -⟩ := (hnested t).1 ht
      rcases hrefused with hfile | hover | hn
      · exact (hparent.2 hparent').2 hfile
      · exact hfree hover
      · exact hn husable
    · rintro ⟨⟨s, hs⟩, hrefused⟩
      obtain ⟨hbelow, -⟩ := (hflat s).1 hs
      refine ⟨hbelow, ?_⟩
      by_contra hall
      obtain ⟨hplain, hrest⟩ := not_or.1 hall
      obtain ⟨hfree, husable⟩ := not_or.1 hrest
      exact hrefused ⟨_, (hnested _).2
        ⟨not_not.1 husable, hparent.1 ⟨hbelow, hplain⟩, hfree, rfl⟩⟩

/-- At the root neither makes anything, and nothing collides. -/
lemma Compared.none {flat : Except FileError FlatStore} {nested : Except FileError DirectoryTree}
    {collides : Prop} (hflat : ∀ s, flat ≠ .ok s) (hnested : ∀ t, nested ≠ .ok t)
    (hfree : ¬ collides) : Compared flat nested collides where
  mirrors t ht := absurd ht (hnested t)
  collides_iff := iff_of_false hfree fun h => h.1.elim hflat

lemma compared_createDirectory_canonical (h : Mirrors store tree) {p : Path}
    (hp : IsCanonical p) :
    Compared (FileStore.createDirectory store p) (FileStore.createDirectory tree p)
      (Collides store (.createDirectory p)) := by
  obtain ⟨names, hnames, rfl⟩ := hp
  rcases names.eq_nil_or_concat' with rfl | ⟨before, n, rfl⟩
  · have hparent := store.hasParent_root
    refine .none (fun s hs => ?_) (DirectoryTree.createDirectory_root tree) fun hc => ?_
    · rw [FlatStore.createDirectory_eq_ok_iff, hparent] at hs
      cases hs.1
    · rw [Collides, hparent] at hc
      cases hc.1
  · exact h.compared_createDirectory hnames

lemma compared_write_canonical (h : Mirrors store tree) {p : Path} (hp : IsCanonical p)
    (bytes : ByteArray) :
    Compared (FileStore.write store p bytes) (FileStore.write tree p bytes)
      (Collides store (.write p bytes)) := by
  obtain ⟨names, hnames, rfl⟩ := hp
  rcases names.eq_nil_or_concat' with rfl | ⟨before, n, rfl⟩
  · have hparent := store.hasParent_root
    refine .none (fun s hs => ?_) (fun t => DirectoryTree.write_root tree t bytes) fun hc => ?_
    · rw [FlatStore.write_eq_ok_iff, hparent] at hs
      cases hs.1
    · rw [Collides, hparent] at hc
      cases hc.1
  · exact h.compared_write hnames bytes

/-! ## Calls -/

section Settling

variable {flat : Except FileError FlatStore} {nested : Except FileError DirectoryTree}
  {collides : Prop}

/-- Results that do not collide settle alike. -/
lemma settle_of_compared (h : Mirrors store tree) (hc : Compared flat nested collides)
    (hfree : ¬ collides) :
    (settle store flat).2 = (settle tree nested).2
      ∧ Mirrors (settle store flat).1 (settle tree nested).1 := by
  cases nested with
  | ok t =>
      obtain ⟨s, rfl, hnext⟩ := hc.mirrors t rfl
      exact ⟨rfl, hnext⟩
  | error cause =>
      cases flat with
      | ok s => exact absurd (hc.collides_iff.2 ⟨⟨s, rfl⟩, by simp⟩) hfree
      | error _ => exact ⟨rfl, h⟩

/-- Where the two collide, the flat store goes on and the tree refuses. -/
lemma settle_of_collides (hc : Compared flat nested collides) (h : collides) :
    (settle store flat).2 = .done true ∧ (settle tree nested).2 = .done false := by
  obtain ⟨⟨s, rfl⟩, hrefused⟩ := hc.collides_iff.1 h
  cases nested with
  | ok t => exact absurd ⟨t, rfl⟩ hrefused
  | error cause => exact ⟨rfl, rfl⟩

end Settling

/-- **A call that does not collide** gets one reply, and leaves mirrors. -/
theorem step (h : Mirrors store tree) {op : Op} (hop : IsCanonical op.path)
    (hfree : ¬ Collides store op) :
    (perform store op).2 = (perform tree op).2
      ∧ Mirrors (perform store op).1 (perform tree op).1 := by
  cases op with
  | isFile p =>
      obtain ⟨names, hnames, rfl⟩ := hop
      exact ⟨congrArg Reply.flag (h.isFile_eq hnames), h⟩
  | present p =>
      obtain ⟨names, hnames, rfl⟩ := hop
      exact ⟨congrArg Reply.flag (h.present_eq hnames), h⟩
  | read p =>
      obtain ⟨names, hnames, rfl⟩ := hop
      exact ⟨congrArg Reply.text (h.read_eq hnames), h⟩
  | createDirectory p =>
      rw [perform, perform]
      exact h.settle_of_compared (h.compared_createDirectory_canonical hop) hfree
  | write p bytes =>
      rw [perform, perform]
      exact h.settle_of_compared (h.compared_write_canonical hop bytes) hfree

/-- **A call that collides** gets two replies. -/
theorem step_of_collides (h : Mirrors store tree) {op : Op} (hop : IsCanonical op.path)
    (hcollides : Collides store op) :
    (perform store op).2 = .done true ∧ (perform tree op).2 = .done false := by
  cases op with
  | isFile p => cases hcollides
  | present p => cases hcollides
  | read p => cases hcollides
  | createDirectory p =>
      rw [perform, perform]
      exact settle_of_collides (h.compared_createDirectory_canonical hop) hcollides
  | write p bytes =>
      rw [perform, perform]
      exact settle_of_collides (h.compared_write_canonical hop bytes) hcollides

/-- Calls that do not collide get one row of replies, and leave mirrors. -/
lemma steps {ops : List Op} (h : Mirrors store tree) (hops : ∀ op ∈ ops, IsCanonical op.path)
    (hfree : CollisionFree store ops) :
    replies store ops = replies tree ops
      ∧ Mirrors (FileStore.after store ops) (FileStore.after tree ops) := by
  induction ops generalizing store tree with
  | nil => exact ⟨rfl, h⟩
  | cons op rest ih =>
      obtain ⟨hreply, hnext⟩ := h.step (hops op (by simp)) hfree.1
      obtain ⟨hreplies, hafter⟩ := ih hnext (fun op hop => hops op (by simp [hop])) hfree.2
      exact ⟨congrArg₂ List.cons hreply hreplies, hafter⟩

/-- One row of replies means that nothing has collided. -/
lemma collisionFree_of_replies {ops : List Op} (h : Mirrors store tree)
    (hops : ∀ op ∈ ops, IsCanonical op.path) (heq : replies store ops = replies tree ops) :
    CollisionFree store ops := by
  induction ops generalizing store tree with
  | nil => trivial
  -- Only the stores before a call have to be mirrors, and they are as long as the replies agree.
  | cons op rest ih =>
      obtain ⟨hreply, hreplies⟩ := List.cons.inj heq
      have hfree : ¬ Collides store op := fun hc => by
        obtain ⟨hflat, hnested⟩ := h.step_of_collides (hops op (by simp)) hc
        rw [hflat, hnested] at hreply
        cases hreply
      obtain ⟨-, hnext⟩ := h.step (hops op (by simp)) hfree
      exact ⟨hfree, ih hnext (fun op hop => hops op (by simp [hop])) hreplies⟩

end Mirrors

/-- **A flat store passes for a directory tree as long as nothing collides.**  Take calls of
    canonical paths, on stores that are empty at first.  The flat store and the tree give the same
    replies to all of them exactly if none of them collides.  At the first call that does, the flat
    store makes a change and the tree refuses it. -/
theorem replies_eq_iff (ops : List Op) (hops : ∀ op ∈ ops, IsCanonical op.path) :
    (replies FlatStore.empty ops = replies DirectoryTree.empty ops
        ↔ CollisionFree FlatStore.empty ops)
      ∧ ∀ before op rest, ops = before ++ op :: rest → CollisionFree FlatStore.empty before →
          Collides (FileStore.after FlatStore.empty before) op →
            replies FlatStore.empty before = replies DirectoryTree.empty before
              ∧ (perform (FileStore.after FlatStore.empty before) op).2 = .done true
              ∧ (perform (FileStore.after DirectoryTree.empty before) op).2 = .done false := by
  refine ⟨⟨Mirrors.empty.collisionFree_of_replies hops,
    fun hfree => (Mirrors.empty.steps hops hfree).1⟩, ?_⟩
  rintro before op rest rfl hfree hcollides
  obtain ⟨hreplies, hafter⟩ :=
    Mirrors.empty.steps (fun op hop => hops op (by simp [hop])) hfree
  exact ⟨hreplies, hafter.step_of_collides (hops op (by simp)) hcollides⟩

/-- An absolute path that is its own normal form is canonical. -/
lemma canonical_of_normal {ops : List Op}
    (h : ∀ op ∈ ops, op.path.isAbsolute = true ∧ op.path.normal = op.path) :
    ∀ op ∈ ops, IsCanonical op.path :=
  fun op hop => Path.isCanonical_iff.2 (h op hop)

/-- Calls that go well, and some that neither store can do. -/
def plainOps : List Op :=
  [.createDirectory ⟨"/d"⟩, .write ⟨"/d/a"⟩ "1".toUTF8, .createDirectory ⟨"/d/a"⟩,
    .createDirectory ⟨"/d"⟩, .write ⟨"/d/a"⟩ "2".toUTF8, .write ⟨"/e/b"⟩ "3".toUTF8,
    .write ⟨"/"⟩ "4".toUTF8, .read ⟨"/d/a"⟩, .read ⟨"/d"⟩, .isFile ⟨"/d/a/b"⟩, .present ⟨"/"⟩]

theorem replies_eq_iff_plain :
    (∀ op ∈ plainOps, IsCanonical op.path)
      ∧ replies FlatStore.empty plainOps = replies DirectoryTree.empty plainOps := by
  have hcanonical := @canonical_of_normal plainOps (by decide +kernel)
  exact ⟨hcanonical, (replies_eq_iff plainOps hcanonical).1.2 (by decide +kernel)⟩

/-- A directory is written over. -/
def overwritingOps : List Op := [.createDirectory ⟨"/d"⟩, .write ⟨"/d"⟩ "1".toUTF8]

/-- **A flat store writes over a directory**, and a tree does not. -/
theorem replies_overwriting :
    (∀ op ∈ overwritingOps, IsCanonical op.path)
      ∧ replies FlatStore.empty overwritingOps = [.done true, .done true]
      ∧ replies DirectoryTree.empty overwritingOps = [.done true, .done false]
      ∧ replies FlatStore.empty overwritingOps ≠ replies DirectoryTree.empty overwritingOps :=
  ⟨canonical_of_normal (by decide +kernel), by decide +kernel, by decide +kernel,
    by decide +kernel⟩

end ModuleBundler
