/-!
# Maps that remember insertion order

Import maps, module graphs, file stores and exported values are all read in the order in which
their keys first appeared, and a key that is written again keeps the place it already has.  An
`OrderedMap` is exactly that: a list of entries whose keys never repeat.

**Reading.**  `get?`, `contains`, `keys`, `values`, `toList`, `size`.

**Writing.**  `insert` changes the value of a known key in place and appends an unknown one;
`ofList` inserts a list of pairs from left to right, so that of two pairs with one key the first
gives the place and the last gives the value.

**Invariant.**  Distinctness of the keys is a field of the type (`nodup`), so no operation and no
caller has to re-establish it.
-/

namespace ModuleBundler

universe u v

namespace OrderedMap

/-- **Write one entry.**  A known key gets the new value where it stands, an unknown key comes
    last. -/
def writeEntry {κ : Type u} {β : Type v} [DecidableEq κ] (key : κ) (value : β) :
    List (κ × β) → List (κ × β)
  | [] => [(key, value)]
  | (k, b) :: rest =>
      if k = key then (k, value) :: rest else (k, b) :: writeEntry key value rest

/-- The keys after a write: unchanged for a known key, one more at the end for a new one. -/
theorem map_fst_writeEntry {κ : Type u} {β : Type v} [DecidableEq κ] (key : κ) (value : β) :
    ∀ entries : List (κ × β),
      (writeEntry key value entries).map Prod.fst
        = if key ∈ entries.map Prod.fst then entries.map Prod.fst
          else entries.map Prod.fst ++ [key]
  | [] => by simp [writeEntry]
  | (k, b) :: rest => by
      by_cases h : k = key
      · simp [writeEntry, h]
      · have ih := map_fst_writeEntry key value rest
        have h' : key ≠ k := fun e => h e.symm
        simp only [writeEntry, if_neg h, List.map_cons, List.mem_cons, ih, h', false_or]
        split <;> simp

/-- A write never makes two entries share a key. -/
theorem nodup_writeEntry {κ : Type u} {β : Type v} [DecidableEq κ] (key : κ) (value : β)
    {entries : List (κ × β)} (h : (entries.map Prod.fst).Nodup) :
    ((writeEntry key value entries).map Prod.fst).Nodup := by
  rw [map_fst_writeEntry]
  split
  · exact h
  · next hn =>
      rw [List.nodup_append]
      refine ⟨h, by simp, ?_⟩
      intro a ha b hb hab
      simp only [List.mem_singleton] at hb
      exact hn (hb ▸ hab ▸ ha)

end OrderedMap

/-- **An insertion-ordered map.**  The entries, in the order in which their keys were first
    written; no key occurs twice. -/
structure OrderedMap (κ : Type u) (β : Type v) where
  entries : List (κ × β)
  nodup : (entries.map Prod.fst).Nodup

namespace OrderedMap

variable {κ : Type u} {β : Type v}

/-- The map without entries. -/
def empty : OrderedMap κ β := ⟨[], by simp⟩

instance : Inhabited (OrderedMap κ β) := ⟨empty⟩

/-- The entries in their order. -/
def toList (m : OrderedMap κ β) : List (κ × β) := m.entries

/-- The keys in their order. -/
def keys (m : OrderedMap κ β) : List κ := m.entries.map Prod.fst

/-- The values in the order of their keys. -/
def values (m : OrderedMap κ β) : List β := m.entries.map Prod.snd

/-- How many entries there are. -/
def size (m : OrderedMap κ β) : Nat := m.entries.length

/-- Whether there are none. -/
def isEmpty (m : OrderedMap κ β) : Bool := m.entries.isEmpty

/-- The value under a key, if there is one. -/
def get? [DecidableEq κ] (m : OrderedMap κ β) (key : κ) : Option β :=
  (m.entries.find? fun e => decide (e.1 = key)).map Prod.snd

/-- Whether there is an entry under a key. -/
def contains [DecidableEq κ] (m : OrderedMap κ β) (key : κ) : Bool :=
  decide (key ∈ m.keys)

/-- Give `key` a value, in place if it has one and at the end otherwise. -/
def insert [DecidableEq κ] (m : OrderedMap κ β) (key : κ) (value : β) : OrderedMap κ β :=
  ⟨writeEntry key value m.entries, nodup_writeEntry key value m.nodup⟩

/-- Change the value of `key` if it has one; an unknown key leaves the map as it is. -/
def modify [DecidableEq κ] (m : OrderedMap κ β) (key : κ) (f : β → β) : OrderedMap κ β :=
  match m.get? key with
  | some value => m.insert key (f value)
  | none => m

/-- The map that writing the pairs one after the other gives. -/
def ofList [DecidableEq κ] (pairs : List (κ × β)) : OrderedMap κ β :=
  pairs.foldl (fun m p => m.insert p.1 p.2) empty

@[simp] theorem keys_empty : (empty : OrderedMap κ β).keys = [] := rfl

/-- An insertion appends its key exactly when the key is new. -/
theorem keys_insert [DecidableEq κ] (m : OrderedMap κ β) (key : κ) (value : β) :
    (m.insert key value).keys = if key ∈ m.keys then m.keys else m.keys ++ [key] :=
  map_fst_writeEntry key value m.entries

@[simp]
theorem get?_empty [DecidableEq κ] (key : κ) : (empty : OrderedMap κ β).get? key = none := rfl

/-- Reading after a write: the written key has the written value, every other key is as before. -/
theorem get?_insert [DecidableEq κ] (m : OrderedMap κ β) (key key' : κ) (value : β) :
    (m.insert key value).get? key' = if key = key' then some value else m.get? key' := by
  obtain ⟨entries, hn⟩ := m
  simp only [get?, insert]
  clear hn
  induction entries with
  | nil =>
      by_cases h : key = key' <;> simp [writeEntry, h]
  | cons e rest ih =>
      obtain ⟨k, b⟩ := e
      by_cases hk : k = key
      · subst hk
        by_cases h : k = key' <;> simp [writeEntry, h]
      · by_cases h : k = key'
        · subst h
          simp [writeEntry, hk, Ne.symm hk]
        · simp only [writeEntry, if_neg hk, List.find?_cons, h, decide_false]
          exact ih

end OrderedMap

end ModuleBundler
