import ModuleBundler.Bundle.Asset
import ModuleBundler.Proofs.FileStore.Seeding

/-!
# What writing an asset changes

**Making sure of a directory** only lets a store grow (`grown_createMissing`), so every file keeps
its bytes and no path becomes a file or stops being one.  It does nothing where everything is there
already (`createMissing_of_present`).

**Writing an asset** fails after the store has grown at most, or gives one key the bytes of the
asset (`write_cases`).  Once it has succeeded, writing the asset again changes nothing
(`write_again`).
-/

namespace ModuleBundler

namespace OrderedMap

universe u v

variable {κ : Type u} {β : Type v} [DecidableEq κ]

/-- Giving a key the value that it has changes nothing. -/
lemma insert_of_get? {m : OrderedMap κ β} {key : κ} {value : β} (h : m.get? key = some value) :
    m.insert key value = m := by
  refine toList_injective ?_
  rw [toList_insert_of_mem m value (mem_keys_of_get? h)]
  refine (List.map_congr_left fun e he => ?_).trans (List.map_id _)
  split
  · next hkey =>
      subst hkey
      rw [(get?_eq_some_iff_mem m e.1 e.2).2 he] at h
      rw [← Option.some.inj h]
      rfl
  · rfl

lemma mem_keys_insert (m : OrderedMap κ β) (key : κ) (value : β) {key' : κ} :
    key' ∈ (m.insert key value).keys ↔ key' = key ∨ key' ∈ m.keys := by
  rw [keys_insert]
  split
  · next hmem => exact ⟨.inr, fun h => h.elim (fun heq => heq ▸ hmem) fun h => h⟩
  · rw [List.mem_append, List.mem_singleton, or_comm]

end OrderedMap

namespace FlatStore

variable {store next : FlatStore} {p : Path} {k : String} {bytes : ByteArray}

lemma createDirectory_eq_ok_iff :
    FileStore.createDirectory store p = .ok next
      ↔ store.hasParent (key p) = true ∧ store.entries.get? (key p) = none
          ∧ next = ⟨store.entries.insert (key p) .directory⟩ := by
  simp only [FileStore.createDirectory, FlatStore.createDirectory]
  exact createKey_eq_ok_iff

/-- **The store with one file written**, whatever stood there. -/
def withFile (store : FlatStore) (p : Path) (bytes : ByteArray) : FlatStore :=
  ⟨store.entries.insert (key p) (.file bytes)⟩

lemma get?_withFile (store : FlatStore) (p : Path) (bytes : ByteArray) (k : String) :
    (store.withFile p bytes).entries.get? k
      = if key p = k then some (.file bytes) else store.entries.get? k :=
  OrderedMap.get?_insert ..

lemma keys_subset_withFile (store : FlatStore) (p : Path) (bytes : ByteArray) :
    store.entries.keys ⊆ (store.withFile p bytes).entries.keys :=
  fun _ hk => (OrderedMap.mem_keys_insert ..).2 (.inr hk)

/-- Writing the same bytes again changes nothing. -/
lemma withFile_withFile (store : FlatStore) (p : Path) (bytes : ByteArray) :
    (store.withFile p bytes).withFile p bytes = store.withFile p bytes := by
  have hthere : (store.withFile p bytes).entries.get? (key p) = some (.file bytes) := by
    rw [get?_withFile, if_pos rfl]
  exact congrArg FlatStore.mk (OrderedMap.insert_of_get? hthere)

lemma write_eq_ok_iff :
    FileStore.write store p bytes = .ok next
      ↔ store.hasParent (key p) = true ∧ next = store.withFile p bytes := by
  simp only [FileStore.write]
  rw [write]
  split
  · next hparent => simp [hparent, withFile, eq_comm]
  · next hparent => simp [hparent]

lemma present_iff : store.present p = true ↔ key p = "" ∨ key p ∈ store.entries.keys := by
  rw [present, Bool.or_eq_true, beq_iff_eq, OrderedMap.contains_iff_mem_keys]

/-- The parent of a key stands before the last separator. -/
lemma parentKey?_append (front : String) {n : String} (hslash : '/' ∉ n.toList) :
    parentKey? (front ++ "/" ++ n) = some front := by
  have hname : ∀ c ∈ n.toList.reverse, decide (c ≠ '/') = true := fun c hc => by
    simpa using fun e : c = '/' => hslash (e ▸ List.mem_reverse.1 hc)
  rw [parentKey?, String.toList_append, String.toList_append, List.reverse_append,
    List.dropWhile_append_of_pos hname]
  simp

/-- A store that knows more keys has the parents that a smaller one has. -/
lemma hasParent_mono (h : store.entries.keys ⊆ next.entries.keys)
    (hparent : store.hasParent k = true) : next.hasParent k = true := by
  rw [hasParent] at hparent ⊢
  split at hparent
  · cases hparent
  · rw [OrderedMap.contains_iff_mem_keys] at hparent ⊢
    exact h hparent

/-- The same file under a key makes no difference for a probe. -/
lemma isFile_congr (h : ∀ bytes, next.entries.get? (key p) = some (.file bytes)
      ↔ store.entries.get? (key p) = some (.file bytes)) : next.isFile p = store.isFile p := by
  rw [Bool.eq_iff_iff, isFile_iff, isFile_iff]
  exact exists_congr h

/-- What a file reads as is told from the entry under its key. -/
lemma read_congr (h : next.entries.get? (key p) = store.entries.get? (key p)) :
    next.read p = store.read p := by
  rw [read, read, h]

/-! ## Growing -/

namespace Grown

lemma createDirectory (h : FileStore.createDirectory store p = .ok next) :
    Grown store next := by
  simp only [FileStore.createDirectory, FlatStore.createDirectory] at h
  exact createKey h

/-- The files apart from one that is written then are the same. -/
lemma file_withFile_iff {content : ByteArray} (h : Grown store next) (hne : key p ≠ k) :
    (next.withFile p content).entries.get? k = some (.file bytes)
      ↔ store.entries.get? k = some (.file bytes) := by
  rw [get?_withFile, if_neg hne, h.file_iff]

end Grown

end FlatStore

namespace Asset

open FlatStore (Grown key)

variable {store next : FlatStore} {directory : Path} {a : Asset}

/-- **Creating what is missing** creates directories one after another, as far as that goes. -/
lemma createMissing_induction {R : FlatStore → FlatStore → Prop} (hrefl : ∀ store, R store store)
    (hcreate : ∀ {store next final : FlatStore} {p : Path},
      FileStore.createDirectory store p = .ok next → R next final → R store final)
    (ps : List Path) (store : FlatStore) : R store (createMissing store ps).1 := by
  induction ps generalizing store with
  | nil => exact hrefl store
  | cons p rest ih =>
      rw [createMissing]
      split
      · exact ih store
      · split
        · next next hnext => exact hcreate hnext (ih next)
        · exact hrefl store

/-- Creating what is missing lets the store grow. -/
lemma grown_createMissing (ps : List Path) (store : FlatStore) :
    Grown store (createMissing store ps).1 :=
  createMissing_induction (R := Grown) .refl
    (fun hcreate h => (Grown.createDirectory hcreate).trans h) ps store

/-- Where everything is there, nothing is created. -/
lemma createMissing_of_present {ps : List Path}
    (h : ∀ p ∈ ps, FileStore.present store p = true) : createMissing store ps = (store, none) := by
  induction ps with
  | nil => rfl
  | cons p rest ih =>
      rw [createMissing, if_pos (h p (by simp))]
      exact ih fun q hq => h q (by simp [hq])

lemma createMissing_of_created {p : Path} (rest : List Path)
    (h : FileStore.present store p = false)
    (hcreate : FileStore.createDirectory store p = .ok next) :
    createMissing store (p :: rest) = createMissing next rest := by
  rw [createMissing, if_neg (by simp [h])]
  simp only [hcreate]

lemma present_mono {p : Path} (h : store.entries.keys ⊆ next.entries.keys)
    (hp : FileStore.present store p = true) : FileStore.present next p = true :=
  FlatStore.present_iff.2 ((FlatStore.present_iff.1 hp).imp_right (@h _))

/-- Once the missing directories have been created, they are all there. -/
lemma present_of_createMissing {ps : List Path} {store next : FlatStore}
    (h : createMissing store ps = (next, none)) : ∀ p ∈ ps, FileStore.present next p = true := by
  induction ps generalizing store with
  | nil => simp
  | cons p rest ih =>
      rw [createMissing] at h
      split at h
      · next hpresent =>
          have hgrown := grown_createMissing rest store
          rw [h] at hgrown
          exact List.forall_mem_cons.2 ⟨present_mono hgrown.keys_subset hpresent, ih h⟩
      · split at h
        · next middle hcreate =>
            have hgrown := grown_createMissing rest middle
            rw [h] at hgrown
            have hpresent : FileStore.present middle p = true := by
              obtain ⟨-, -, rfl⟩ := FlatStore.createDirectory_eq_ok_iff.1 hcreate
              exact FlatStore.present_iff.2
                (.inr ((OrderedMap.mem_keys_insert _ _ _).2 (.inl rfl)))
            exact List.forall_mem_cons.2 ⟨present_mono hgrown.keys_subset hpresent, ih h⟩
        · cases h

section Steps

variable {σ : Type} [FileStore σ] {store ready next : σ} {directory : Path} {a : Asset}

/-- If the directory cannot be ensured, the failure names it, and nothing is written. -/
lemma write_of_unensured {cause : FileError}
    (h : ensureDirectory store directory = (ready, some cause)) :
    a.write store directory = (ready, .error [.write directory cause]) := by
  rw [write, h]

lemma write_of_refused {cause : FileError} (h : ensureDirectory store directory = (ready, none))
    (hwrite : FileStore.write ready (directory.join ⟨a.fileName⟩) a.content.toUTF8
      = .error cause) :
    a.write store directory
      = (ready, .error [.write (directory.join ⟨a.fileName⟩) cause]) := by
  simp only [write, h, hwrite]

lemma write_of_written (h : ensureDirectory store directory = (ready, none))
    (hwrite : FileStore.write ready (directory.join ⟨a.fileName⟩) a.content.toUTF8
      = .ok next) :
    a.write store directory = (next, .ok (directory.join ⟨a.fileName⟩)) := by
  simp only [write, h, hwrite]

end Steps

/-- **What writing an asset can do**: it fails after the store has grown, or it makes sure of the
    directory and then gives the key of the file its bytes. -/
lemma write_cases (store : FlatStore) (directory : Path) (a : Asset) :
    (∃ (ready : FlatStore) (errors : BuildErrors),
        a.write store directory = (ready, .error errors) ∧ Grown store ready)
      ∨ ∃ ready : FlatStore, ensureDirectory store directory = (ready, none)
          ∧ Grown store ready ∧ ready.hasParent (key (directory.join ⟨a.fileName⟩)) = true
          ∧ a.write store directory
            = (ready.withFile (directory.join ⟨a.fileName⟩) a.content.toUTF8,
                .ok (directory.join ⟨a.fileName⟩)) := by
  have hgrown : Grown store (ensureDirectory store directory).1 :=
    grown_createMissing _ store
  cases hensure : ensureDirectory store directory with
  | mk ready problem =>
      rw [hensure] at hgrown
      cases problem with
      | some cause => exact .inl ⟨ready, _, write_of_unensured hensure, hgrown⟩
      | none =>
          cases hwrite : FileStore.write ready (directory.join ⟨a.fileName⟩) a.content.toUTF8 with
          | error cause => exact .inl ⟨ready, _, write_of_refused hensure hwrite, hgrown⟩
          | ok next =>
              obtain ⟨hparent, rfl⟩ := FlatStore.write_eq_ok_iff.1 hwrite
              exact .inr ⟨ready, rfl, hgrown, hparent, write_of_written hensure hwrite⟩

/-- **Writing an asset again** changes nothing. -/
lemma write_again {path : Path} (h : a.write store directory = (next, .ok path)) :
    a.write next directory = (next, .ok path) := by
  rcases write_cases store directory a with
    ⟨ready, errors, hfailed, -⟩ | ⟨ready, hensure, -, hparent, hdone⟩
  · rw [hfailed] at h
    cases h
  · rw [hdone] at h
    cases h
    have hkeys := ready.keys_subset_withFile (directory.join ⟨a.fileName⟩) a.content.toUTF8
    refine write_of_written (createMissing_of_present fun p hp =>
      present_mono hkeys (present_of_createMissing hensure p hp)) ?_
    exact FlatStore.write_eq_ok_iff.2
      ⟨FlatStore.hasParent_mono hkeys hparent, (FlatStore.withFile_withFile ..).symm⟩

end Asset

end ModuleBundler
