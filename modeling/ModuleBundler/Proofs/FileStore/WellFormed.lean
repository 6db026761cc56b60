import Mathlib.Data.List.TakeWhile
import Mathlib.Logic.Relation
import ModuleBundler.Proofs.FileStore.History
import ModuleBundler.Proofs.FileStore.Mirror

/-!
# Flat stores stay well formed

A flat store takes paths in any spelling, lets files stand in as parents, and keeps what an addition
has done before it stops.  Its keys make up a tree all the same.

**Changes** are the calls of a file store, the addition of a file, and making sure of a directory
(`FlatStore.Change`).  What a change does, it does by putting entries under keys of paths, one after
the other, each where its parent is there (`Put`, `puts_change`).

**Well-formed stores.**  The root is a directory, and every other key is a name behind a separator
and another key (`WellFormed`).  The key of a path does not end in a separator (`getLast?_key`), and
the root has no parent, so putting an entry keeps a store well formed (`Put.wellFormed`), and so
does every row of changes (`changeAll_wellFormed`).
-/

namespace ModuleBundler.FlatStore

open FileStore (Op perform settle)
open Relation (ReflTransGen)

variable {store next : FlatStore} {result : Except FileError FlatStore} {p : Path} {k : String}

/-! ## Putting entries -/

/-- **One entry is put** under the key of a path whose parent is there. -/
def Put (store next : FlatStore) : Prop :=
  ∃ (p : Path) (entry : FlatEntry), store.hasParent (key p) = true
    ∧ next = ⟨store.entries.insert (key p) entry⟩

lemma put_of_createDirectory (h : FileStore.createDirectory store p = .ok next) :
    Put store next := by
  obtain ⟨hparent, -, rfl⟩ := createDirectory_eq_ok_iff.1 h
  exact ⟨p, _, hparent, rfl⟩

lemma put_of_write {bytes : ByteArray} (h : FileStore.write store p bytes = .ok next) :
    Put store next := by
  obtain ⟨hparent, rfl⟩ := write_eq_ok_iff.1 h
  exact ⟨p, _, hparent, rfl⟩

/-- Missing directories are put one after the other, as far as that goes. -/
lemma puts_createMissing (ps : List Path) (store : FlatStore) :
    ReflTransGen Put store (Asset.createMissing store ps).1 :=
  Asset.createMissing_induction (R := ReflTransGen Put) (fun _ => .refl)
    (fun hcreate h => .head (put_of_createDirectory hcreate) h) ps store

lemma puts_addFile (store : FlatStore) (p : Path) (content : String) :
    ReflTransGen Put store (store.addFile p content).1 := by
  have hway := puts_createMissing p.ancestors.reverse store
  rw [← (createMissing_eq _ store).1] at hway
  rcases addFile_cases store p content with heq | hwrite
  · rwa [heq]
  · exact hway.tail (put_of_write hwrite)

/-! ## Changes -/

lemma puts_settle (h : ∀ next, result = .ok next → Put store next) :
    ReflTransGen Put store (settle store result).1 := by
  cases result with
  | ok next => exact .single (h next rfl)
  | error cause => exact .refl

lemma settle_of_refused (h : (settle store result).2 = .done false) :
    (settle store result).1 = store := by
  cases result with
  | ok next => simp [settle] at h
  | error cause => rfl

lemma settle_of_done (h : (settle store result).2 = .done true) :
    result = .ok (settle store result).1 := by
  cases result with
  | ok next => rfl
  | error cause => simp [settle] at h

/-- **A change to a flat store**, under paths in any spelling. -/
inductive Change where
  | call (op : Op)
  | addFile (p : Path) (content : String)
  | ensureDirectory (directory : Path)

/-- The store after a change, which may have failed or stopped on the way. -/
def change (store : FlatStore) : Change → FlatStore
  | .call op => (perform store op).1
  | .addFile p content => (store.addFile p content).1
  | .ensureDirectory directory => (Asset.ensureDirectory store directory).1

/-- **The store after a row of changes.** -/
def changeAll (store : FlatStore) (changes : List Change) : FlatStore :=
  changes.foldl change store

/-- **What a change does**, it does by putting entries. -/
lemma puts_change (store : FlatStore) (c : Change) : ReflTransGen Put store (store.change c) := by
  cases c with
  | addFile p content => exact puts_addFile store p content
  | ensureDirectory directory => exact puts_createMissing _ store
  | call op =>
      cases op with
      | createDirectory p =>
          rw [change, perform]
          exact puts_settle fun _ hcreate => put_of_createDirectory hcreate
      | write p bytes =>
          rw [change, perform]
          exact puts_settle fun _ hwrite => put_of_write hwrite
      | _ => exact .refl

/-- **Any changes** amount to entries that are put one after another. -/
lemma puts_changeAll (store : FlatStore) (changes : List Change) :
    ReflTransGen Put store (store.changeAll changes) := by
  induction changes generalizing store with
  | nil => exact .refl
  | cons c rest ih => exact (puts_change store c).trans (ih (store.change c))

/-- Putting entries takes no key away. -/
lemma keys_subset_of_puts (h : ReflTransGen Put store next) :
    store.entries.keys ⊆ next.entries.keys := by
  induction h with
  | refl => exact List.Subset.refl _
  | tail _ hput ih =>
      obtain ⟨p, entry, -, rfl⟩ := hput
      intro k hk
      exact (OrderedMap.mem_keys_insert ..).2 (.inr (ih hk))

/-! ## Well-formed stores -/

/-- **A well-formed store.**  The root is a directory, and every other key is a name that stands
    behind a separator and another key. -/
structure WellFormed (store : FlatStore) : Prop where
  root : store.entries.get? "" = some .directory
  below : ∀ k ∈ store.entries.keys, k ≠ "" →
    ∃ front name, k = front ++ "/" ++ name ∧ name ≠ "" ∧ '/' ∉ name.toList
      ∧ front ∈ store.entries.keys

lemma wellFormed_empty : WellFormed empty where
  root := by
    rw [empty, OrderedMap.ofList, List.foldl_cons, List.foldl_nil, OrderedMap.get?_insert,
      if_pos rfl]
  below k hk hne := by
    rw [empty, OrderedMap.ofList, List.foldl_cons, List.foldl_nil, OrderedMap.mem_keys_insert] at hk
    exact absurd (hk.resolve_right (by simp)) hne

/-- The key of a path does not end in a separator. -/
lemma getLast?_key (p : Path) : (key p).toList.getLast? ≠ some '/' := by
  intro hlast
  rw [key, String.toList_ofList, List.getLast?_reverse] at hlast
  have hhead := List.head?_dropWhile_not (fun c => decide (c = '/')) p.text.toList.reverse
  rw [hlast] at hhead
  simp at hhead

/-- A parent stands in front of the last separator. -/
lemma parentKey?_eq_some {front : String} (h : parentKey? k = some front) :
    ∃ name, '/' ∉ name.toList ∧ k = front ++ "/" ++ name := by
  rw [parentKey?] at h
  split at h
  · cases h
  · next c before hdrop =>
      cases h
      have hhead := List.head?_dropWhile_not (fun c => decide (c ≠ '/')) k.toList.reverse
      have hcut : k.toList.reverse.takeWhile (· ≠ '/') ++ k.toList.reverse.dropWhile (· ≠ '/')
          = k.toList.reverse := List.takeWhile_append_dropWhile
      have hname : ∀ d ∈ k.toList.reverse.takeWhile (· ≠ '/'), d ≠ '/' := fun d hd => by
        simpa using List.mem_takeWhile_imp hd
      rw [hdrop] at hhead hcut
      have hc : c = '/' := by simpa using hhead
      -- What stands behind the last separator, in the order of the key.
      generalize k.toList.reverse.takeWhile (· ≠ '/') = behind at hcut hname
      refine ⟨String.ofList behind.reverse, ?_, ?_⟩
      · intro hslash
        rw [String.toList_ofList, List.mem_reverse] at hslash
        exact hname '/' hslash rfl
      · rw [← String.toList_inj, ← List.reverse_reverse k.toList, ← hcut, hc]
        simp

/-- What has a parent is not the root, so the root stays a directory. -/
lemma WellFormed.keep_root (hstore : WellFormed store) {entry : FlatEntry}
    (hparent : store.hasParent k = true) :
    (store.entries.insert k entry).get? "" = some .directory := by
  have hne : k ≠ "" := by
    rintro rfl
    simp [hasParent, parentKey?] at hparent
  rw [OrderedMap.get?_insert, if_neg hne]
  exact hstore.root

/-- **Putting an entry** keeps a store well formed. -/
theorem Put.wellFormed (h : Put store next) (hstore : WellFormed store) : WellFormed next := by
  obtain ⟨p, entry, hparent, rfl⟩ := h
  refine ⟨hstore.keep_root hparent, fun k hk hne => ?_⟩
  have hkept : ∀ front, front ∈ store.entries.keys →
      front ∈ (store.entries.insert (key p) entry).keys := fun front hfront =>
    (OrderedMap.mem_keys_insert ..).2 (.inr hfront)
  rcases (OrderedMap.mem_keys_insert ..).1 hk with rfl | hk
  · rw [hasParent] at hparent
    split at hparent
    · cases hparent
    · next front hfront =>
        rw [OrderedMap.contains_iff_mem_keys] at hparent
        obtain ⟨name, hslash, hkey⟩ := parentKey?_eq_some hfront
        refine ⟨front, name, hkey, ?_, hslash, hkept front hparent⟩
        rintro rfl
        exact getLast?_key p (by simp [hkey])
  · obtain ⟨front, name, hkey, hname, hslash, hfront⟩ := hstore.below k hk hne
    exact ⟨front, name, hkey, hname, hslash, hkept front hfront⟩

lemma WellFormed.of_puts (hstore : WellFormed store) (h : ReflTransGen Put store next) :
    WellFormed next := by
  induction h with
  | refl => exact hstore
  | tail _ hput ih => exact hput.wellFormed ih

lemma perform_of_refused {op : Op} (h : (perform store op).2 = .done false) :
    (perform store op).1 = store := by
  cases op with
  | createDirectory p =>
      rw [perform] at h ⊢
      exact settle_of_refused h
  | write p bytes =>
      rw [perform] at h ⊢
      exact settle_of_refused h
  | _ => rfl

/-- A write that succeeds leaves the store with the file. -/
lemma perform_write_of_done {bytes : ByteArray}
    (h : (perform store (.write p bytes)).2 = .done true) :
    (perform store (.write p bytes)).1 = store.withFile p bytes := by
  rw [perform] at h ⊢
  exact (write_eq_ok_iff.1 (settle_of_done h)).2

/-- **A flat store stays well formed.**  Take any row of changes to the empty store, whatever of it
    fails or stops.  The store is well formed, and no key goes away later.  A call that fails leaves
    the store as it was.  A write that succeeds is read back, if it is a text, and leaves alone what
    all other keys hold. -/
theorem changeAll_wellFormed (changes : List Change) :
    let store := empty.changeAll changes
    store.WellFormed
      ∧ (∀ later, store.entries.keys ⊆ (store.changeAll later).entries.keys)
      ∧ (∀ op, (perform store op).2 = .done false → (perform store op).1 = store)
      ∧ ∀ p bytes, (perform store (.write p bytes)).2 = .done true →
          let next := (perform store (.write p bytes)).1
          (∀ content, FileStore.read next p = .ok content ↔ bytes = content.toUTF8)
            ∧ ∀ k, k ≠ key p → next.entries.get? k = store.entries.get? k := by
  intro store
  refine ⟨wellFormed_empty.of_puts (puts_changeAll empty changes),
    fun later => keys_subset_of_puts (puts_changeAll store later),
    fun op hrefused => perform_of_refused hrefused, fun p bytes hdone => ?_⟩
  rw [perform_write_of_done hdone]
  refine ⟨fun content => ?_, fun k hne => ?_⟩
  · refine read_eq_ok_iff.trans ?_
    rw [get?_withFile, if_pos rfl, Option.some.injEq, FlatEntry.file.injEq]
  · rw [get?_withFile, if_neg (Ne.symm hne)]

/-- A file stands in as a parent.  A doubled separator and a path without any stop an addition. -/
example :
    (empty.changeAll [.addFile ⟨"/a/b//"⟩ "x", .ensureDirectory ⟨"/a/b/./c"⟩,
      .addFile ⟨"/d/e//f/g"⟩ "y", .addFile ⟨"h"⟩ "z"]).entries.keys
      = ["", "/a", "/a/b", "/a/b/c", "/d", "/d/e"] := by
  decide +kernel

end ModuleBundler.FlatStore
