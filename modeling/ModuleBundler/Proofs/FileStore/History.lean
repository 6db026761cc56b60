import ModuleBundler.Proofs.FileStore.Writing

/-!
# Stores that come about

A store begins empty and is changed by adding a file, creating a directory or writing a file, under
paths in any spelling (`FlatStore.Arises`).  A change that is refused leaves the store as it was,
and an addition that stops on the way leaves what was created before.

An addition creates the ancestors of its file as the way to a directory is created
(`createMissing_eq`).  No change takes a key away (`keys_subset_addFile`), so the root is there in
every store that comes about (`Arises.root_mem_keys`).
-/

namespace ModuleBundler.FlatStore

variable {store : FlatStore}

/-- **A store that comes about** from the empty one. -/
inductive Arises : FlatStore → Prop
  | empty : Arises empty
  | addFile {store : FlatStore} (p : Path) (content : String) :
      Arises store → Arises (store.addFile p content).1
  | createDirectory {store next : FlatStore} {p : Path} :
      Arises store → FileStore.createDirectory store p = .ok next → Arises next
  | write {store next : FlatStore} {p : Path} {bytes : ByteArray} :
      Arises store → FileStore.write store p bytes = .ok next → Arises next

lemma keys_subset_write {next : FlatStore} {p : Path} {bytes : ByteArray}
    (h : FileStore.write store p bytes = .ok next) : store.entries.keys ⊆ next.entries.keys := by
  obtain ⟨-, rfl⟩ := write_eq_ok_iff.1 h
  exact keys_subset_withFile store p bytes

/-- The ancestors of a file are created as the way to a directory is. -/
lemma createMissing_eq (ps : List Path) (store : FlatStore) :
    (store.createMissing ps).1 = (Asset.createMissing store ps).1
      ∧ ((Asset.createMissing store ps).2 = none → (store.createMissing ps).2 = none) := by
  induction ps generalizing store with
  | nil => exact ⟨rfl, fun _ => rfl⟩
  | cons p rest ih =>
      have hpresent : FileStore.present store p = true
          ↔ key p = "" ∨ store.entries.contains (key p) = true := by
        rw [OrderedMap.contains_iff_mem_keys]
        exact present_iff
      rw [createMissing, Asset.createMissing]
      by_cases hthere : FileStore.present store p = true
      · rw [if_pos hthere, if_pos (hpresent.1 hthere)]
        exact ih store
      · rw [if_neg hthere, if_neg (mt hpresent.2 hthere)]
        simp only [FileStore.createDirectory, FlatStore.createDirectory]
        cases store.createKey (key p) with
        | ok next => exact ih next
        | error cause => exact ⟨rfl, fun h => by cases h⟩

/-- **How far adding a file gets**: to its missing ancestors, or to the file itself. -/
lemma addFile_cases (store : FlatStore) (p : Path) (content : String) :
    (store.addFile p content).1 = (store.createMissing p.ancestors.reverse).1
      ∨ FileStore.write (store.createMissing p.ancestors.reverse).1 p content.toUTF8
        = .ok (store.addFile p content).1 := by
  rw [addFile]
  split
  · next next problem hstopped => exact .inl (congrArg Prod.fst hstopped).symm
  · next next hready =>
      rw [hready]
      split
      · next final hwrite => exact .inr hwrite
      · exact .inl rfl

/-- Adding a file takes no key away, however far it gets. -/
lemma keys_subset_addFile (store : FlatStore) (p : Path) (content : String) :
    store.entries.keys ⊆ (store.addFile p content).1.entries.keys := by
  have hway := (grown_createMissing p.ancestors.reverse store).keys_subset
  rcases addFile_cases store p content with heq | hwrite
  · rwa [heq]
  · exact List.Subset.trans hway (keys_subset_write hwrite)

/-- **The root is always there.** -/
theorem Arises.root_mem_keys (h : store.Arises) : "" ∈ store.entries.keys := by
  induction h with
  | empty => decide
  | addFile p content _ ih => exact keys_subset_addFile _ p content ih
  | createDirectory _ hcreate ih => exact (Grown.createDirectory hcreate).keys_subset ih
  | write _ hwrite ih => exact keys_subset_write hwrite ih

/-- Where the root is, everything that is there has a key. -/
lemma present_iff_mem_keys (hroot : "" ∈ store.entries.keys) {p : Path} :
    store.present p = true ↔ key p ∈ store.entries.keys := by
  rw [present_iff]
  exact or_iff_right_of_imp fun hempty => hempty ▸ hroot

end ModuleBundler.FlatStore
