import Mathlib.Data.List.Induction
import ModuleBundler.FileStore.Flat
import ModuleBundler.Proofs.OrderedMap

/-!
# What a seeded store holds

**Growing.**  A store grows by directories where nothing was (`FlatStore.Grown`).  What was there
stays, so every file keeps its bytes (`Grown.file_iff`) and no key goes (`Grown.keys_subset`).

**Seeding** a file creates the missing directories on the way to it, which only lets the store grow,
and then gives one key its bytes.  So after seeding files with distinct keys the store holds these
files and no other (`get?_ofFiles`).
-/

namespace ModuleBundler.FlatStore

variable {store next : FlatStore} {p : Path} {k : String} {bytes : ByteArray}

/-- A text is what its bytes say, and no other text. -/
lemma textOfBytes_eq_ok_iff {content : String} :
    textOfBytes bytes = .ok content ↔ bytes = content.toUTF8 := by
  constructor
  · intro h
    rw [textOfBytes] at h
    split at h
    · next text htext =>
        cases h
        rw [String.fromUTF8?] at htext
        split at htext
        · cases htext
          rfl
        · cases htext
    · cases h
  · rintro rfl
    have hback : String.fromUTF8? content.toUTF8 = some content := dif_pos content.isValidUTF8
    rw [textOfBytes, hback]

lemma isFile_iff :
    store.isFile p = true ↔ ∃ bytes, store.entries.get? (key p) = some (.file bytes) := by
  rw [isFile]
  split
  · next bytes h => exact iff_of_true rfl ⟨bytes, h⟩
  · next h =>
      refine iff_of_false Bool.false_ne_true ?_
      rintro ⟨bytes, hbytes⟩
      exact h bytes hbytes

lemma read_eq_ok_iff {content : String} :
    store.read p = .ok content ↔ store.entries.get? (key p) = some (.file content.toUTF8) := by
  rw [read]
  split
  · next h => simp [h]
  · next h => simp [h]
  · next bytes h => rw [textOfBytes_eq_ok_iff, h, Option.some.injEq, FlatEntry.file.injEq]

/-! ## Growing -/

/-- A directory can be created if its parent is there and nothing is in its place. -/
lemma createKey_eq_ok_iff :
    store.createKey k = .ok next
      ↔ store.hasParent k = true ∧ store.entries.get? k = none
          ∧ next = ⟨store.entries.insert k .directory⟩ := by
  rw [createKey]
  split
  · next hparent =>
      split
      · next bytes h => simp [h]
      · next h => simp [h]
      · next h => simp [h, hparent, eq_comm]
  · next hparent => simp [hparent]

/-- **A store has grown** by directories where nothing was. -/
def Grown (store next : FlatStore) : Prop :=
  ∀ k, next.entries.get? k = store.entries.get? k
    ∨ (store.entries.get? k = none ∧ next.entries.get? k = some .directory)

namespace Grown

lemma refl (store : FlatStore) : Grown store store := fun _ => .inl rfl

lemma trans {last : FlatStore} (h : Grown store next) (h' : Grown next last) :
    Grown store last := by
  intro k
  rcases h' k with h' | ⟨hnone, hdirectory⟩
  · rw [h']
    exact h k
  · rcases h k with h | ⟨-, hdirectory'⟩
    · exact .inr ⟨h.symm.trans hnone, hdirectory⟩
    · rw [hdirectory'] at hnone
      cases hnone

lemma createKey (h : store.createKey k = .ok next) : Grown store next := by
  obtain ⟨-, hnone, rfl⟩ := createKey_eq_ok_iff.1 h
  intro k'
  rw [OrderedMap.get?_insert]
  split
  · next heq => exact .inr ⟨heq ▸ hnone, rfl⟩
  · exact .inl rfl

/-- The files are the same. -/
lemma file_iff (h : Grown store next) :
    next.entries.get? k = some (.file bytes) ↔ store.entries.get? k = some (.file bytes) := by
  rcases h k with h | ⟨hnone, hdirectory⟩
  · rw [h]
  · rw [hnone, hdirectory]
    simp

lemma keys_subset (h : Grown store next) : store.entries.keys ⊆ next.entries.keys := by
  intro k hk
  obtain ⟨entry, hentry⟩ := OrderedMap.exists_get?_of_mem_keys hk
  rcases h k with h | ⟨hnone, -⟩
  · exact OrderedMap.mem_keys_of_get? (h.trans hentry)
  · rw [hentry] at hnone
    cases hnone

end Grown

/-- Creating missing ancestors lets the store grow. -/
lemma grown_createMissing (ps : List Path) (store : FlatStore) :
    Grown store (store.createMissing ps).1 := by
  induction ps generalizing store with
  | nil => exact .refl store
  | cons p rest ih =>
      rw [createMissing]
      split
      · exact ih store
      · split
        · next next hcreate => exact (Grown.createKey hcreate).trans (ih next)
        · exact .refl store

/-! ## Seeding -/

/-- **Adding a file** gives its key the bytes, and leaves all other files alone. -/
lemma get?_addFile {content : String} (h : store.addFile p content = (next, none)) :
    next.entries.get? k = some (.file bytes)
      ↔ if key p = k then bytes = content.toUTF8
        else store.entries.get? k = some (.file bytes) := by
  have hway : (store.createMissing p.ancestors.reverse).1.entries.get? k = some (.file bytes)
      ↔ store.entries.get? k = some (.file bytes) := (grown_createMissing _ store).file_iff
  rw [addFile] at h
  split at h
  · cases h
  · next ready hready =>
      rw [hready] at hway
      rw [write] at h
      split at h
      · next final hwrite =>
          cases h
          split at hwrite
          · cases hwrite
            rw [OrderedMap.get?_insert]
            split
            · rw [Option.some.injEq, FlatEntry.file.injEq, eq_comm]
            · exact hway
          · cases hwrite
      · cases h

/-- Seed one file after others. -/
def seed (store : FlatStore) (file : Path × String) : Except SeedError FlatStore :=
  match store.addFile file.1 file.2 with
  | (next, none) => .ok next
  | (_, some problem) => .error problem

lemma ofFiles_eq_foldlM (files : List (Path × String)) : ofFiles files = files.foldlM seed empty :=
  rfl

/-- A file that is put into the store is found there, and every other file stays. -/
lemma get?_seed {file : Path × String} (h : store.seed file = .ok next) :
    next.entries.get? k = some (.file bytes)
      ↔ if key file.1 = k then bytes = file.2.toUTF8
        else store.entries.get? k = some (.file bytes) := by
  rw [seed] at h
  split at h
  · next hadd =>
      cases h
      exact get?_addFile hadd
  · cases h

/-- **A seeded store holds the files** it was seeded with, and no other. -/
theorem get?_ofFiles {files : List (Path × String)} (hnodup : (files.map (key ·.1)).Nodup)
    (h : ofFiles files = .ok store) :
    store.entries.get? k = some (.file bytes)
      ↔ ∃ file ∈ files, key file.1 = k ∧ bytes = file.2.toUTF8 := by
  induction files using List.reverseRecOn generalizing store with
  | nil =>
      cases h
      rw [empty, OrderedMap.ofList, List.foldl_cons, List.foldl_nil, OrderedMap.get?_insert]
      split <;> simp [OrderedMap.empty, OrderedMap.get?]
  | append_singleton files last ih =>
      rw [List.map_append, List.nodup_append] at hnodup
      rw [ofFiles_eq_foldlM, List.foldlM_append] at h
      cases hbefore : files.foldlM seed empty with
      | error problem =>
          rw [hbefore] at h
          cases h
      | ok before =>
          rw [hbefore] at h
          have hlast : before.seed last = .ok store := by
            change List.foldlM seed before [last] = .ok store at h
            rw [List.foldlM_cons] at h
            cases hseed : before.seed last with
            | error problem =>
                rw [hseed] at h
                cases h
            | ok next =>
                rw [hseed] at h
                exact h
          rw [get?_seed hlast, ih hnodup.1 hbefore]
          split
          · next heq =>
              constructor
              · exact fun hbytes => ⟨last, by simp, heq, hbytes⟩
              · rintro ⟨file, hfile, hkey, hbytes⟩
                rcases List.mem_append.1 hfile with hfile | hfile
                · exact absurd (hkey.trans heq.symm)
                    (hnodup.2.2 _ (List.mem_map.2 ⟨file, hfile, rfl⟩) _ (by simp))
                · rwa [← List.mem_singleton.1 hfile]
          · next hne =>
              constructor
              · rintro ⟨file, hfile, hrest⟩
                exact ⟨file, by simp [hfile], hrest⟩
              · rintro ⟨file, hfile, hkey, hbytes⟩
                rcases List.mem_append.1 hfile with hfile | hfile
                · exact ⟨file, hfile, hkey, hbytes⟩
                · rw [List.mem_singleton.1 hfile] at hkey
                  exact absurd hkey hne

end ModuleBundler.FlatStore
